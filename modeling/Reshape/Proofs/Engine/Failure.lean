/-
# How a run fails

A run fails only where a path is resolved, a condition is looked up or a transform is run.
Whether a class of errors `P` covers these places is asked node by node (`Covers`): a node is
covered if its own steps fail only with such errors.  If every node in a tree is covered, the
run of the tree fails only with such errors (`onlyFails_mapNode`), and so does the run of a
document (`onlyFails_apply`).
-/
import Reshape.Proofs.Engine.Fields
import Reshape.Proofs.Schema.Within

namespace Reshape.Engine

open Reporting

/-! ## 1. The steps of a node -/

/-- The errors `P` cover what a node may fail with, the nodes below it aside. -/
structure Covers (P : MappingError → Prop) (e : Engine) (info : NodeInfo) : Prop where
  notArray (f : Path.Failure) : P (.notArray f)
  conditions {specs : List ConditionSpec} (hs : info.conditions = some specs)
    {spec : ConditionSpec} (h : spec ∈ specs)
    (hn : Entries.get? spec.name e.conditions.entries = none) :
    P (.condition (.unknown spec.name))
  transform {steps : TransformSpec} (hs : info.transform = some steps)
    {step : TransformStep} (h : step ∈ steps) (v : Json) :
    OnlyFails (fun te => P (.transform te)) (e.transforms.applyStep v step)

variable {P : MappingError → Prop} {e : Engine} {info : NodeInfo}

theorem onlyFails_resolved (hp : ∀ f, P (.notArray f)) (path : Path) (input : Json) :
    OnlyFails P ((path.resolve input).mapError .notArray) := by
  intro err h
  obtain ⟨f, -, rfl⟩ := Result.mapError_eq_error.mp h
  exact hp f

theorem onlyFails_chain {Q : TransformError → Prop} {r : TransformRegistry}
    {steps : TransformSpec} (h : ∀ step ∈ steps, ∀ v, OnlyFails Q (r.applyStep v step))
    (v : Json) : OnlyFails Q (r.apply v steps) := by
  induction steps generalizing v with
  | nil => exact onlyFails_pure v
  | cons step steps ih =>
    refine OnlyFails.bind (h step List.mem_cons_self v) fun w => ih ?_ w
    exact fun s hs => h s (List.mem_cons_of_mem step hs)

theorem Covers.onlyFails_transform (hc : Covers P e info) (v : Json) :
    OnlyFails P (e.transform info v) := by
  have hopt : OnlyFails (fun te => P (.transform te))
      (e.transforms.applyOptional v info.transform) := by
    cases ht : info.transform with
    | none => exact onlyFails_pure v
    | some steps => exact onlyFails_chain (fun step h w => hc.transform ht h w) v
  exact hopt.mapError fun te h => h

theorem Covers.onlyFails_subject (hc : Covers P e info) (spec : ConditionSpec) (c : Json) :
    OnlyFails P (ConditionSet.subject spec c) := by
  rw [ConditionSet.subject]
  cases spec.field with
  | none => exact onlyFails_pure c
  | some path =>
    exact (onlyFails_resolved hc.notArray path c).bind fun found => onlyFails_pure _

theorem Covers.onlyFails_conditions (hc : Covers P e info) {specs : List ConditionSpec}
    (hs : info.conditions = some specs) (value : Json) :
    OnlyFails P (e.conditions.apply value specs) := by
  refine OnlyFails.bind (onlyFails_mapM fun spec h => ?_) fun _ => onlyFails_pure _
  rw [ConditionSet.applySpec]
  cases hg : Entries.get? spec.name e.conditions.entries with
  | none => exact onlyFails_throw (hc.conditions hs h hg)
  | some p =>
    refine OnlyFails.bind ?_ fun _ => onlyFails_pure _
    refine OnlyFails.bind (onlyFails_mapM fun c _ => ?_) fun _ => onlyFails_pure _
    exact (hc.onlyFails_subject spec c).bind fun _ => onlyFails_pure _

theorem Covers.onlyFails_filterCandidate (hc : Covers P e info) (candidate : Json) :
    OnlyFails P (e.filterCandidate info candidate) := by
  rw [filterCandidate]
  cases hs : info.conditions with
  | none => exact onlyFails_pure _
  | some specs => exact hc.onlyFails_conditions hs candidate

theorem Covers.onlyFails_mapValue (hc : Covers P e info) (path : Option Path) (input : Json)
    (params : Parameters) : OnlyFails P (e.mapValue info path input params) := by
  unfold mapValue
  cases path with
  | none => exact onlyFails_pure _
  | some p =>
    refine (onlyFails_resolved hc.notArray p input).bind fun found? => ?_
    cases found? with
    | none => exact onlyFails_pure _
    | some found =>
      dsimp only
      cases hs : info.conditions with
      | none => exact (hc.onlyFails_transform found).bind fun v => onlyFails_pure _
      | some specs =>
        refine (hc.onlyFails_conditions hs found).bind fun matched? => ?_
        cases matched? with
        | none => exact (onlyFails_pure _).bind fun v => onlyFails_pure _
        | some matched => exact (hc.onlyFails_transform matched).bind fun v => onlyFails_pure _

theorem onlyFails_openCandidate (path : Path) (exclude : List String) (candidate : Json) :
    OnlyFails P (openCandidate info path exclude candidate) := by
  cases candidate with
  | obj entries => exact onlyFails_pure _
  | _ => exact (onlyFails_warn _).bind fun _ => onlyFails_pure _

/-- What a node makes of what its path leads to, with a value where that is nothing. -/
theorem Covers.onlyFails_found (hc : Covers P e info) (path : Path) (input default : Json)
    {make : Json → Reporting MappingError Json} (h : ∀ found, OnlyFails P (make found)) :
    OnlyFails P (do
      match ← resolve path input with
      | none => pure default
      | some found => make found) := by
  refine (onlyFails_resolved hc.notArray path input).bind fun found? => ?_
  cases found? with
  | none => exact onlyFails_pure default
  | some found => exact h found

/-- What a node makes of what its conditions leave of a candidate. -/
theorem Covers.onlyFails_left {α : Type} (hc : Covers P e info) (candidate : Json) (skip : α)
    {make : Json → Reporting MappingError α} (h : ∀ item, OnlyFails P (make item)) :
    OnlyFails P (do
      match ← e.filterCandidate info candidate with
      | none => pure skip
      | some item => make item) := by
  refine (hc.onlyFails_filterCandidate candidate).bind fun item? => ?_
  cases item? with
  | none => exact onlyFails_pure skip
  | some item => exact h item

/-! ## 2. Loops over nodes -/

/-- Nodes fail only with such errors, whatever they are mapped against. -/
def AllOnlyFail (P : MappingError → Prop) (e : Engine) (ns : List Node) : Prop :=
  ∀ n ∈ ns, ∀ input params, OnlyFails P (e.mapNode n input params)

theorem onlyFails_mapFields {ns : List Node} (h : AllOnlyFail P e ns) (input : Json)
    (params : Parameters) : OnlyFails P (e.mapFields ns input params) := by
  rw [mapFields_eq_mapM]
  exact onlyFails_mapM fun n hn => (h n hn input params).bind fun v => onlyFails_pure _

theorem onlyFails_mapGroups {groups : List (List Node)} (h : AllOnlyFail P e groups.flatten)
    (limits : List Limit) (input : Json) (params : Parameters) :
    OnlyFails P (e.mapGroups groups limits input params) := by
  rw [mapGroups_eq_mapM]
  refine OnlyFails.bind (onlyFails_mapM fun g hg => ?_) fun _ => onlyFails_pure _
  refine (onlyFails_mapFields (fun n hn => ?_) input params).bind fun fs => onlyFails_pure _
  exact h n (List.mem_flatten.mpr ⟨g, hg, hn⟩)

/-! ## 3. Nodes -/

/-- One node: it fails only with such errors if it is covered and the nodes right below it
fail only with such errors. -/
theorem onlyFails_mapNode_of_children {n : Node} (hc : Covers P e n.info)
    (h : AllOnlyFail P e n.children) (input : Json) (params : Parameters) :
    OnlyFails P (e.mapNode n input params) := by
  cases n with
  | value info path =>
    rw [mapNode]
    exact hc.onlyFails_mapValue path input params
  | attributes info path fields =>
    rw [mapNode]
    refine hc.onlyFails_found path input _ fun found => ?_
    refine OnlyFails.bind (onlyFails_mapM fun c _ => ?_) fun _ => hc.onlyFails_transform _
    refine hc.onlyFails_left c _ fun item => ?_
    exact (onlyFails_mapFields h item params).bind fun _ => onlyFails_pure _
  | nested info fields =>
    rw [mapNode]
    exact (onlyFails_mapFields h input params).bind fun _ => onlyFails_pure _
  | items info path groups =>
    rw [mapNode]
    refine hc.onlyFails_found path input _ fun found => ?_
    refine OnlyFails.bind (onlyFails_mapM fun c _ => ?_) fun _ => hc.onlyFails_transform _
    refine hc.onlyFails_left c _ fun item => ?_
    exact onlyFails_mapGroups h info.limits item params
  | itemsAll info path groups exclude =>
    rw [mapNode]
    refine hc.onlyFails_found path input _ fun found => ?_
    refine OnlyFails.bind (onlyFails_mapM fun c _ => ?_) fun _ => hc.onlyFails_transform _
    refine (onlyFails_openCandidate path exclude c).bind fun entries => ?_
    refine OnlyFails.bind (onlyFails_mapM fun entry _ => ?_) fun _ => onlyFails_pure _
    exact onlyFails_mapGroups h info.limits entry.2 _
  | hash info path fields =>
    rw [mapNode]
    refine hc.onlyFails_found path input _ fun found => ?_
    refine OnlyFails.bind (onlyFails_mapM fun c _ => ?_) fun _ => onlyFails_pure _
    refine hc.onlyFails_left c _ fun item => ?_
    exact (onlyFails_mapFields h item params).bind fun _ => onlyFails_pure _
  | array info elements =>
    rw [mapNode]
    exact (onlyFails_mapFields h input params).bind fun _ => hc.onlyFails_transform _
  | hashArray info path fields =>
    rw [mapNode]
    refine hc.onlyFails_found path input _ fun found => ?_
    refine OnlyFails.bind (onlyFails_mapM fun c _ => ?_) fun written => ?_
    · exact (onlyFails_mapFields h c params).bind fun _ => onlyFails_pure _
    · refine OnlyFails.bind (onlyFails_mapM fun g _ => ?_) fun _ => onlyFails_pure _
      exact (hc.onlyFails_transform _).bind fun _ => onlyFails_pure _
  | mergeArrays info paths =>
    rw [mapNode]
    refine OnlyFails.bind ?_ fun _ => hc.onlyFails_transform _
    refine OnlyFails.bind (onlyFails_mapM fun p _ => ?_) fun _ => onlyFails_pure _
    exact onlyFails_resolved hc.notArray p input

/-- **A tree of covered nodes fails only with the errors that cover it.** -/
theorem onlyFails_mapNode {n : Node} (h : ∀ m : Node, m.Within n → Covers P e m.info)
    (input : Json) (params : Parameters) : OnlyFails P (e.mapNode n input params) := by
  induction n using Node.induct_children generalizing input params with
  | step n ih =>
    refine onlyFails_mapNode_of_children (h n .self) ?_ input params
    exact fun m hm => ih m hm fun k hk => h k (.child hm hk)

/-- The run of a document fails only with the errors that cover its nodes. -/
theorem onlyFails_apply
    (h : ∀ n ∈ e.document.objects, ∀ m : Node, m.Within n → Covers P e m.info) (input : Json) :
    OnlyFails P (e.apply input) := by
  refine OnlyFails.bind (onlyFails_mapFields ?_ _ _) fun _ => onlyFails_pure _
  exact fun n hn input params => onlyFails_mapNode (h n hn) input params

end Reshape.Engine
