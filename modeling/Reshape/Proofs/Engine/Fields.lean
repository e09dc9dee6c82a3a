/-
# The values of child nodes

The two loops of a node over the nodes below it.  Mapping fields goes through them with
`mapM`, and so does mapping groups (`mapFields_eq_mapM`, `mapGroups_eq_mapM`); a run of either
succeeds exactly when each node has a value (`Values`), in the order of the nodes, and fails
otherwise with the first error of a node (`result_mapFields_eq_error`).
-/
import Reshape.Engine
import Reshape.Proofs.Sequence

namespace Reshape

namespace Engine

open Reporting

variable {e : Engine} {ns : List Node} {input : Json} {params : Parameters}

/-! ## 1. Loops -/

theorem mapFields_eq_mapM (ns : List Node) (input : Json) (params : Parameters) :
    e.mapFields ns input params = ns.mapM (fun n => do
      let v ← e.mapNode n input params
      pure (n.info, v)) := by
  induction ns with
  | nil => rw [mapFields]; rfl
  | cons n ns ih =>
    rw [mapFields, List.mapM_cons, ih]
    simp only [bind_assoc, pure_bind]

theorem mapGroups_eq_mapM (gs : List (List Node)) (limits : List Limit) (input : Json)
    (params : Parameters) :
    e.mapGroups gs limits input params = (do
      let sets ← gs.mapM fun g => do
        let fs ← e.mapFields g input params
        pure (e.attributeSet limits fs)
      pure (sets.filterMap id)) := by
  induction gs with
  | nil => rw [mapGroups]; rfl
  | cons g gs ih =>
    rw [mapGroups, List.mapM_cons, ih]
    simp only [bind_assoc, pure_bind]
    congr
    funext fs
    congr
    funext sets
    cases e.attributeSet limits fs <;> rfl

/-! ## 2. Values -/

/-- The nodes have these values against an input. -/
def Values (e : Engine) (ns : List Node) (input : Json) (params : Parameters)
    (vs : List Json) : Prop :=
  List.Forall₂ (fun n v => (e.mapNode n input params).result = .ok v) ns vs

theorem Values.unique {vs ws : List Json} (h : Values e ns input params vs)
    (h' : Values e ns input params ws) : vs = ws := by
  refine List.right_unique_forall₂' ?_ h h'
  intro n v w hv hw
  rw [hv] at hw
  exact Except.ok.inj hw

theorem result_mapFields_eq_ok {fs : Fields} :
    (e.mapFields ns input params).result = .ok fs ↔
      ∃ vs, Values e ns input params vs ∧ fs = (ns.map Node.info).zip vs := by
  have hstep : ∀ n f, (do let v ← e.mapNode n input params; pure (n.info, v)).result = .ok f ↔
      ∃ v, (e.mapNode n input params).result = .ok v ∧ f = (n.info, v) := by
    intro n f
    rw [result_bind_eq_ok]
    simp only [result_pure, Except.ok.injEq, eq_comm]
  have hzip : ∀ vs : List Json,
      ns.zipWith (fun n v => (n.info, v)) vs = (ns.map Node.info).zip vs := by
    intro vs
    rw [List.zip, List.zipWith_map_left]
  rw [mapFields_eq_mapM, result_mapM_eq_ok]
  simp only [hstep, Result.forall₂_zipWith, hzip]
  rfl

/-- Mapping fields fails with the first error of a node. -/
theorem result_mapFields_eq_error {err : MappingError} :
    (e.mapFields ns input params).result = .error err ↔
      ∃ before n after, ns = before ++ n :: after ∧
        (∀ m ∈ before, ∃ v, (e.mapNode m input params).result = .ok v) ∧
        (e.mapNode n input params).result = .error err := by
  have hok : ∀ m, (∃ f, (do let v ← e.mapNode m input params; pure (m.info, v)).result = .ok f) ↔
      ∃ v, (e.mapNode m input params).result = .ok v := by
    intro m
    simp only [result_bind_eq_ok, result_pure, Except.ok.injEq]
    exact ⟨fun ⟨_, v, hv, _⟩ => ⟨v, hv⟩, fun ⟨v, hv⟩ => ⟨_, v, hv, rfl⟩⟩
  have herror : ∀ n, (do let v ← e.mapNode n input params; pure (n.info, v)).result = .error err ↔
      (e.mapNode n input params).result = .error err := by
    intro n
    simp only [result_bind_eq_error, result_pure, reduceCtorEq, and_false, exists_false, or_false]
  rw [mapFields_eq_mapM, result_mapM_eq_error]
  simp only [hok, herror]

/-- The entries of fields are the values under the names of the nodes. -/
theorem entriesOf_zip (ns : List Node) (vs : List Json) :
    entriesOf ((ns.map Node.info).zip vs) = (ns.map Node.name).zip vs := by
  induction ns generalizing vs with
  | nil => rfl
  | cons n ns ih =>
    cases vs with
    | nil => rfl
    | cons v vs => exact congrArg ((n.name, v) :: ·) (ih vs)

theorem Values.keys_zip {vs : List Json} (h : Values e ns input params vs) :
    Entries.keys ((ns.map Node.name).zip vs) = ns.map Node.name := by
  have hlength := List.Forall₂.length_eq h
  rw [Entries.keys, List.map_fst_zip]
  rw [List.length_map]
  omega

/-- What fields write: their values under the names of the nodes. -/
theorem result_entriesOf_eq_ok {es : Entries Json} :
    (do let fs ← e.mapFields ns input params; pure (entriesOf fs)).result = .ok es ↔
      ∃ vs, Values e ns input params vs ∧ es = (ns.map Node.name).zip vs := by
  rw [result_bind_pure, Result.map_eq_ok]
  simp only [result_mapFields_eq_ok]
  constructor
  · rintro ⟨fs, ⟨vs, hvs, rfl⟩, rfl⟩
    exact ⟨vs, hvs, entriesOf_zip ns vs⟩
  · rintro ⟨vs, hvs, rfl⟩
    exact ⟨_, ⟨vs, hvs, rfl⟩, (entriesOf_zip ns vs).symm⟩

theorem keys_entriesOf {fs : Fields} (h : (e.mapFields ns input params).result = .ok fs) :
    Entries.keys (entriesOf fs) = ns.map Node.name := by
  obtain ⟨vs, hvs, rfl⟩ := result_mapFields_eq_ok.mp h
  rw [entriesOf_zip]
  exact hvs.keys_zip

theorem lacksRequired_zip (ns : List Node) (vs : List Json) :
    lacksRequired ((ns.map Node.info).zip vs) = true ↔
      ∃ f ∈ ns.zip vs, f.1.info.require = true ∧ f.2.isBlank = true := by
  rw [lacksRequired, List.any_eq_true, List.zip_map_left]
  simp only [List.mem_map, exists_exists_and_eq_and, Prod.map_fst, Prod.map_snd, id_eq,
    Bool.and_eq_true]

end Engine

/-! ## 3. Nodes that say nothing more -/

/-- An engine with the transforms that are always there, and nothing else. -/
def Engine.builtin : Engine := ⟨⟨[], ⟨[]⟩, []⟩, ⟨[]⟩, registry {}⟩

/-- What says nothing but a name. -/
def NodeInfo.named (name : String) : NodeInfo := ⟨name, none, none, [], none, false⟩

/-- The value at a path under a name. -/
def Node.valueAt (name path : String) : Node := .value (.named name) (some (.ofString path))

end Reshape
