/-
# Empty segments in schemas

Two nodes that differ only in empty segments of their paths and of the fields of their
conditions (`Node.Alike Path.Alike`) make the same of an input at every step but one: a node
with attributes looks at the end of its path to tell whether its only set stands bare.

* Nodes whose paths of attributes also agree about ending in a `*` have the same value, or fail
  in the same way (`sameNodes`).
* Attributes at alike paths build the same sets.  If only one of the paths ends in a `*`, the
  values differ exactly where there is one set (`agree_attributes`).

Main statement: `mapNode_alike`.
-/
import Reshape.Proofs.Engine.Sets
import Reshape.Proofs.Path.EmptySegments
import Reshape.Proofs.Schema.Within

namespace Reshape

open Reporting

/-! ## 1. Schemas that are alike -/

/-- Two specs differ only in empty segments of their fields. -/
structure ConditionSpec.Alike (s t : ConditionSpec) : Prop where
  name : s.name = t.name
  field : Option.Rel Path.Alike s.field t.field
  output : s.output = t.output

/-- Two nodes say the same beside their kind, but for empty segments in their conditions. -/
structure NodeInfo.Alike (i j : NodeInfo) : Prop where
  name : i.name = j.name
  transform : i.transform = j.transform
  conditions : Option.Rel (List.Forall₂ ConditionSpec.Alike) i.conditions j.conditions
  limits : i.limits = j.limits
  default : i.default = j.default
  require : i.require = j.require

/-- Two nodes differ only in empty segments, in their trees.  The paths of attributes are
compared by `A`. -/
inductive Node.Alike (A : Path → Path → Prop) : Node → Node → Prop
  | value {i j : NodeInfo} {p q : Option Path} (hi : i.Alike j) (hp : Option.Rel Path.Alike p q) :
      Alike A (.value i p) (.value j q)
  | attributes {i j : NodeInfo} {p q : Path} {ns ms : List Node} (hi : i.Alike j) (hp : A p q)
      (h : List.Forall₂ (Alike A) ns ms) : Alike A (.attributes i p ns) (.attributes j q ms)
  | nested {i j : NodeInfo} {ns ms : List Node} (hi : i.Alike j)
      (h : List.Forall₂ (Alike A) ns ms) : Alike A (.nested i ns) (.nested j ms)
  | items {i j : NodeInfo} {p q : Path} {gs hs : List (List Node)} (hi : i.Alike j)
      (hp : p.Alike q) (h : List.Forall₂ (List.Forall₂ (Alike A)) gs hs) :
      Alike A (.items i p gs) (.items j q hs)
  | itemsAll {i j : NodeInfo} {p q : Path} {gs hs : List (List Node)} {exclude : List String}
      (hi : i.Alike j) (hp : p.Alike q) (h : List.Forall₂ (List.Forall₂ (Alike A)) gs hs) :
      Alike A (.itemsAll i p gs exclude) (.itemsAll j q hs exclude)
  | hash {i j : NodeInfo} {p q : Path} {ns ms : List Node} (hi : i.Alike j) (hp : p.Alike q)
      (h : List.Forall₂ (Alike A) ns ms) : Alike A (.hash i p ns) (.hash j q ms)
  | array {i j : NodeInfo} {ns ms : List Node} (hi : i.Alike j)
      (h : List.Forall₂ (Alike A) ns ms) : Alike A (.array i ns) (.array j ms)
  | hashArray {i j : NodeInfo} {p q : Path} {ns ms : List Node} (hi : i.Alike j)
      (hp : p.Alike q) (h : List.Forall₂ (Alike A) ns ms) :
      Alike A (.hashArray i p ns) (.hashArray j q ms)
  | mergeArrays {i j : NodeInfo} {ps qs : List Path} (hi : i.Alike j)
      (hp : List.Forall₂ Path.Alike ps qs) : Alike A (.mergeArrays i ps) (.mergeArrays j qs)

theorem Node.Alike.info {A : Path → Path → Prop} {n m : Node} (h : n.Alike A m) :
    n.info.Alike m.info := by
  cases h <;> assumption

/-- Two errors are of one kind: the same, or two accounts of a `*` without an array that differ
only in empty segments. -/
inductive MappingError.Alike : MappingError → MappingError → Prop
  | same (err : MappingError) : Alike err err
  | notArray {f g : Path.Failure} (h : f.Alike g) : Alike (.notArray f) (.notArray g)

/-! ## 2. The steps of a node -/

/-- Two runs have the same value, or errors of one kind. -/
abbrev Reporting.Same {α : Type} (x y : Reporting MappingError α) : Prop :=
  Agree MappingError.Alike Eq x y

theorem Reporting.same_self {α : Type} (x : Reporting MappingError α) : x.Same x :=
  agree_refl .same x

namespace ConditionSet

variable {cs : ConditionSet} {s t : ConditionSpec}

theorem same_subject (h : s.Alike t) (c : Json) : (subject s c).Same (subject t c) := by
  have hf := h.field
  rw [subject, subject]
  generalize s.field = p? at hf ⊢
  generalize t.field = q? at hf ⊢
  cases hf with
  | none => exact same_self _
  | some hp =>
    refine Agree.bind ((hp.agree_resolve c).mapError fun f g => .notArray) ?_
    rintro found _ rfl
    exact same_self _

theorem same_applySpec (h : s.Alike t) (value : Json) :
    (cs.applySpec value s).Same (cs.applySpec value t) := by
  rw [applySpec, applySpec, h.name]
  cases Entries.get? t.name cs.entries with
  | none => exact same_self _
  | some p =>
    have hselect : (select p s value.candidates).Same (select p t value.candidates) := by
      refine Agree.bind (agree_mapM_same _ fun c => ?_) ?_
      · refine (same_subject h c).bind ?_
        rintro v _ rfl
        exact same_self _
      · rintro kept _ rfl
        exact same_self _
    refine hselect.bind ?_
    rintro matched _ rfl
    rw [contribution, contribution, h.output]
    exact same_self _

theorem same_apply {ss ts : List ConditionSpec} (h : List.Forall₂ ConditionSpec.Alike ss ts)
    (value : Json) : (cs.apply value ss).Same (cs.apply value ts) := by
  refine Agree.bind (agree_mapM_eq (h.imp fun s t hst => same_applySpec hst value)) ?_
  rintro marks _ rfl
  exact same_self _

end ConditionSet

namespace Engine

variable {e : Engine} {i j : NodeInfo} {p q : Path} {input : Json} {params : Parameters}

theorem same_resolve (h : p.Alike q) (input : Json) : (resolve p input).Same (resolve q input) :=
  (h.agree_resolve input).mapError fun _ _ => .notArray

theorem same_filterCandidate (h : i.Alike j) (c : Json) :
    (e.filterCandidate i c).Same (e.filterCandidate j c) := by
  have hc := h.conditions
  rw [filterCandidate, filterCandidate]
  generalize i.conditions = ss? at hc ⊢
  generalize j.conditions = ts? at hc ⊢
  cases hc with
  | none => exact same_self _
  | some hs => exact ConditionSet.same_apply hs c

theorem transform_eq (h : i.Alike j) (v : Json) : e.transform i v = e.transform j v := by
  rw [transform, transform, h.transform]

theorem same_mapValue (h : i.Alike j) {p q : Option Path} (hp : Option.Rel Path.Alike p q)
    (input : Json) (params : Parameters) :
    (e.mapValue i p input params).Same (e.mapValue j q input params) := by
  have hc := h.conditions
  unfold mapValue
  rw [h.default]
  cases hp with
  | none => exact same_self _
  | some hp =>
    refine (same_resolve hp input).bind ?_
    rintro found? _ rfl
    cases found? with
    | none => exact same_self _
    | some found =>
      dsimp only
      generalize i.conditions = ss? at hc ⊢
      generalize j.conditions = ts? at hc ⊢
      cases hc with
      | none =>
        dsimp only
        rw [transform_eq h]
        exact same_self _
      | some hs =>
        refine (ConditionSet.same_apply hs found).bind ?_
        rintro matched? _ rfl
        cases matched? with
        | none => exact same_self _
        | some matched =>
          dsimp only
          rw [transform_eq h]
          exact same_self _

/-- What nodes make of what their paths lead to, with a value where that is nothing. -/
theorem same_found (hp : p.Alike q) (input default : Json)
    {make make' : Json → Reporting MappingError Json}
    (h : ∀ found, (make found).Same (make' found)) :
    Reporting.Same
      (do match ← resolve p input with
          | none => pure default
          | some found => make found)
      (do match ← resolve q input with
          | none => pure default
          | some found => make' found) := by
  refine (same_resolve hp input).bind ?_
  rintro found? _ rfl
  cases found? with
  | none => exact same_self _
  | some found => exact h found

/-- What nodes make of what their conditions leave of a candidate. -/
theorem same_left {α : Type} (hi : i.Alike j) (candidate : Json) (skip : α)
    {make make' : Json → Reporting MappingError α} (h : ∀ item, (make item).Same (make' item)) :
    Reporting.Same
      (do match ← e.filterCandidate i candidate with
          | none => pure skip
          | some item => make item)
      (do match ← e.filterCandidate j candidate with
          | none => pure skip
          | some item => make' item) := by
  refine (same_filterCandidate hi candidate).bind ?_
  rintro item? _ rfl
  cases item? with
  | none => exact same_self _
  | some item => exact h item

/-- Only the warning about a candidate tells of the node. -/
theorem same_openCandidate (exclude : List String) (candidate : Json) :
    (openCandidate i p exclude candidate).Same (openCandidate j q exclude candidate) := by
  cases candidate <;> exact .ok rfl

theorem same_mergePaths {ps qs : List Path} (h : List.Forall₂ Path.Alike ps qs) (input : Json) :
    (mergePaths ps input).Same (mergePaths qs input) := by
  refine Agree.bind (agree_mapM_eq (h.imp fun p q hpq => same_resolve hpq input)) ?_
  rintro found _ rfl
  exact same_self _

/-! ## 3. Loops over nodes -/

/-- Two nodes make the same of every input. -/
structure SameNodes (e : Engine) (n m : Node) : Prop where
  info : n.info.Alike m.info
  run (input : Json) (params : Parameters) :
    (e.mapNode n input params).Same (e.mapNode m input params)

/-- Fields with the same values, which say the same of them. -/
def FieldsAlike (fs gs : Fields) : Prop := List.Forall₂ (fun f g => f.1.Alike g.1 ∧ f.2 = g.2) fs gs

theorem FieldsAlike.entriesOf {fs gs : Fields} (h : FieldsAlike fs gs) :
    entriesOf fs = entriesOf gs := by
  induction h with
  | nil => rfl
  | cons hfg _ ih => simp only [Engine.entriesOf, List.map_cons, hfg.1.name, hfg.2] at ih ⊢; rw [ih]

theorem FieldsAlike.candidates {fs gs : Fields} (h : FieldsAlike fs gs) :
    fs.flatMap (fun f => f.2.candidates) = gs.flatMap fun f => f.2.candidates := by
  induction h with
  | nil => rfl
  | cons hfg _ ih => rw [List.flatMap_cons, List.flatMap_cons, hfg.2, ih]

theorem FieldsAlike.attributeSet {fs gs : Fields} (h : FieldsAlike fs gs) (limits : List Limit) :
    e.attributeSet limits fs = e.attributeSet limits gs := by
  have hr : lacksRequired fs = lacksRequired gs := by
    induction h with
    | nil => rfl
    | cons hfg _ ih =>
      rw [lacksRequired, lacksRequired, List.any_cons, List.any_cons, hfg.1.require, hfg.2]
      exact congrArg _ ih
  rw [Engine.attributeSet, Engine.attributeSet, h.entriesOf, hr]

theorem agree_mapFields {ns ms : List Node} (h : List.Forall₂ (SameNodes e) ns ms) (input : Json)
    (params : Parameters) :
    Agree MappingError.Alike FieldsAlike (e.mapFields ns input params)
      (e.mapFields ms input params) := by
  rw [mapFields_eq_mapM, mapFields_eq_mapM]
  refine agree_mapM (h.imp fun n m hnm => (hnm.run input params).bind ?_)
  rintro v _ rfl
  exact agree_pure ⟨hnm.info, rfl⟩

theorem same_mapGroups {gs hs : List (List Node)}
    (h : List.Forall₂ (List.Forall₂ (SameNodes e)) gs hs) (limits : List Limit) (input : Json)
    (params : Parameters) :
    (e.mapGroups gs limits input params).Same (e.mapGroups hs limits input params) := by
  rw [mapGroups_eq_mapM, mapGroups_eq_mapM]
  have hsets : List.Forall₂ (fun g g' => Reporting.Same
      (do let fs ← e.mapFields g input params; pure (e.attributeSet limits fs))
      (do let fs ← e.mapFields g' input params; pure (e.attributeSet limits fs))) gs hs := by
    refine h.imp fun ns ms hnm => (agree_mapFields hnm input params).bind fun fs fs' hfs => ?_
    exact agree_pure (hfs.attributeSet limits)
  refine (agree_mapM_eq hsets).bind ?_
  rintro sets _ rfl
  exact same_self _

theorem same_setsOf {ns ms : List Node} (hi : i.Alike j) (h : List.Forall₂ (SameNodes e) ns ms)
    (params : Parameters) (candidates : List Json) :
    (e.setsOf i ns params candidates).Same (e.setsOf j ms params candidates) := by
  refine agree_mapM_same _ fun c => same_left hi c none fun item => ?_
  refine (agree_mapFields h item params).bind fun fs gs hfg => ?_
  rw [← hi.limits]
  exact agree_pure (hfg.attributeSet i.limits)

/-! ## 4. Nodes -/

section Children

variable {A : Path → Path → Prop}

theorem sameNodes_of_alike {ns ms : List Node}
    (ih : ∀ n ∈ ns, ∀ m, n.Alike A m → SameNodes e n m) (h : List.Forall₂ (Node.Alike A) ns ms) :
    List.Forall₂ (SameNodes e) ns ms :=
  ((List.forall₂_and_left _ _).mpr ⟨ih, h⟩).imp fun _ m hm => hm.1 m hm.2

theorem sameGroups_of_alike {gs hs : List (List Node)}
    (ih : ∀ n ∈ gs.flatten, ∀ m, n.Alike A m → SameNodes e n m)
    (h : List.Forall₂ (List.Forall₂ (Node.Alike A)) gs hs) :
    List.Forall₂ (List.Forall₂ (SameNodes e)) gs hs := by
  have hgroups : ∀ g ∈ gs, ∀ n ∈ g, ∀ m, n.Alike A m → SameNodes e n m :=
    fun g hg n hn => ih n (List.mem_flatten.mpr ⟨g, hg, hn⟩)
  exact ((List.forall₂_and_left _ _).mpr ⟨hgroups, h⟩).imp fun _ _ hg =>
    sameNodes_of_alike hg.1 hg.2

end Children

theorem collapseSets_congr (h : p.endsWithWildcard = q.endsWithWildcard) (sets : List Json) :
    collapseSets p sets = collapseSets q sets := by
  unfold collapseSets
  rw [h]

/-- One node: it makes the same of an input as a node that is alike, if the nodes right below
them do. -/
theorem same_mapNode_of_children {n m : Node} (h : n.Alike Path.AlikeAtEnd m)
    (ih : ∀ k ∈ n.children, ∀ l, k.Alike Path.AlikeAtEnd l → SameNodes e k l) (input : Json)
    (params : Parameters) : (e.mapNode n input params).Same (e.mapNode m input params) := by
  cases h with
  | value hi hp =>
    rw [mapNode, mapNode]
    exact same_mapValue hi hp input params
  | attributes hi hp h =>
    rw [mapNode, mapNode, hi.default]
    refine same_found hp.alike input _ fun found => ?_
    refine (same_setsOf hi (sameNodes_of_alike ih h) params found.candidates).bind ?_
    rintro sets _ rfl
    rw [transform_eq hi, collapseSets_congr hp.atEnd]
    exact same_self _
  | nested hi h =>
    rw [mapNode, mapNode]
    refine (agree_mapFields (sameNodes_of_alike ih h) input params).bind fun fs gs hfg => ?_
    rw [hfg.entriesOf]
    exact same_self _
  | items hi hp h =>
    rw [mapNode, mapNode, hi.default, hi.limits]
    refine same_found hp input _ fun found => Agree.bind (agree_mapM_same _ fun c => ?_) ?_
    · exact same_left hi c [] fun item => same_mapGroups (sameGroups_of_alike ih h) _ item params
    · rintro sets _ rfl
      rw [transform_eq hi]
      exact same_self _
  | @itemsAll _ _ _ _ _ _ exclude hi hp h =>
    rw [mapNode, mapNode, hi.default, hi.limits]
    refine same_found hp input _ fun found => Agree.bind (agree_mapM_same _ fun c => ?_) ?_
    · refine (same_openCandidate exclude c).bind ?_
      rintro entries _ rfl
      refine Agree.bind (agree_mapM_same _ fun entry => ?_) ?_
      · exact same_mapGroups (sameGroups_of_alike ih h) _ entry.2 _
      · rintro sets _ rfl
        exact same_self _
    · rintro sets _ rfl
      rw [transform_eq hi]
      exact same_self _
  | hash hi hp h =>
    rw [mapNode, mapNode, hi.default]
    refine same_found hp input _ fun found => Agree.bind (agree_mapM_same _ fun c => ?_) ?_
    · refine same_left hi c [] fun item => ?_
      refine (agree_mapFields (sameNodes_of_alike ih h) item params).bind fun fs gs hfg => ?_
      exact agree_pure hfg.entriesOf
    · rintro written _ rfl
      exact same_self _
  | array hi h =>
    rw [mapNode, mapNode]
    refine (agree_mapFields (sameNodes_of_alike ih h) input params).bind fun fs gs hfg => ?_
    dsimp only
    rw [transform_eq hi, hfg.candidates]
    exact same_self _
  | hashArray hi hp h =>
    rw [mapNode, mapNode, hi.default]
    refine same_found hp input _ fun found => Agree.bind (agree_mapM_same _ fun c => ?_) ?_
    · refine (agree_mapFields (sameNodes_of_alike ih h) c params).bind fun fs gs hfg => ?_
      exact agree_pure hfg.entriesOf
    · rintro written _ rfl
      simp only [transformGroups, transform_eq hi]
      exact same_self _
  | mergeArrays hi hp =>
    rw [mapNode, mapNode]
    refine (same_mergePaths hp input).bind ?_
    rintro merged _ rfl
    rw [transform_eq hi]
    exact same_self _

/-- **Nodes that differ only in empty segments make the same of every input**, if the paths of
attributes agree about ending in a `*`. -/
theorem sameNodes {n m : Node} (h : n.Alike Path.AlikeAtEnd m) : SameNodes e n m := by
  induction n using Node.induct_children generalizing m with
  | step n ih =>
    exact ⟨h.info, same_mapNode_of_children h fun k hk l hkl => ih k hk hkl⟩

/-! ## 5. The end of a path of attributes -/

theorem ne_arr_singleton (v : Json) : v ≠ .arr [v] := by
  intro h
  have hsize := congrArg sizeOf h
  simp only [Json.arr.sizeOf_spec, List.cons.sizeOf_spec] at hsize
  omega

/-- A `*` at the end tells where there is one set, and only there. -/
theorem collapseSets_eq_iff {sets : List Json} :
    collapseSets p sets = collapseSets q sets ↔
      p.endsWithWildcard = q.endsWithWildcard ∨ sets.length ≠ 1 := by
  match sets with
  | [] => simp [collapseSets]
  | [set] =>
    have hne := ne_arr_singleton set
    have hne' : Json.arr [set] ≠ set := hne.symm
    cases hp : p.endsWithWildcard <;> cases hq : q.endsWithWildcard <;>
      simp [collapseSets, hp, hq, hne, hne']
  | _ :: _ :: _ => simp [collapseSets]

/-- **Attributes at paths that differ only in empty segments build the same sets.**  Their
values differ exactly where there is one set and only one of the paths ends in a `*`. -/
theorem agree_attributes {ns ms : List Node} {found : Json} (hi : i.Alike j) (hp : p.Alike q)
    (h : List.Forall₂ (Node.Alike Path.AlikeAtEnd) ns ms) (ht : i.transform = none)
    (hf : (resolve p input).result = .ok (some found)) :
    Agree MappingError.Alike
      (fun v w => ∃ sets, SetUnit.BuildAll e i.limits ((Node.attributes i p ns).units found params)
        sets ∧ v = collapseSets p sets ∧ w = collapseSets q sets ∧
        (v = w ↔ p.endsWithWildcard = q.endsWithWildcard ∨ sets.length ≠ 1))
      (e.mapNode (.attributes i p ns) input params)
      (e.mapNode (.attributes j q ms) input params) := by
  have hnodes : List.Forall₂ (SameNodes e) ns ms := h.imp fun _ _ => sameNodes
  rw [mapNode, mapNode]
  refine (same_resolve hp input).bind_of_ok ?_
  rintro found? _ hfound rfl
  cases hf.symm.trans hfound
  refine (same_setsOf hi hnodes params found.candidates).bind_of_ok ?_
  rintro outcomes _ ho rfl
  have htj : j.transform = none := hi.transform.symm.trans ht
  unfold Agree
  rw [result_transform_none ht, result_transform_none htj]
  exact .ok ⟨outcomes.filterMap id, buildAll_of_setsOf ho, rfl, rfl, collapseSets_eq_iff⟩

/-- **Empty segments matter at one place only.**  Two nodes that differ in nothing else have the
same value or fail in the same way, if paths of attributes agree about ending in a `*`.  If the
paths of two nodes with attributes do not, the nodes still build the same sets, and their
values differ exactly where there is one. -/
theorem mapNode_alike (e : Engine) (input : Json) (params : Parameters) :
    (∀ n m : Node, n.Alike Path.AlikeAtEnd m →
      Agree MappingError.Alike Eq (e.mapNode n input params) (e.mapNode m input params)) ∧
    ∀ (i j : NodeInfo) (p q : Path) (ns ms : List Node) (found : Json), i.Alike j → p.Alike q →
      List.Forall₂ (Node.Alike Path.AlikeAtEnd) ns ms → i.transform = none →
      (resolve p input).result = .ok (some found) →
      Agree MappingError.Alike
        (fun v w => ∃ sets, SetUnit.BuildAll e i.limits
          ((Node.attributes i p ns).units found params) sets ∧
          v = collapseSets p sets ∧ w = collapseSets q sets ∧
          (v = w ↔ p.endsWithWildcard = q.endsWithWildcard ∨ sets.length ≠ 1))
        (e.mapNode (.attributes i p ns) input params)
        (e.mapNode (.attributes j q ms) input params) :=
  ⟨fun _ _ h => (sameNodes h).run input params,
    fun _ _ _ _ _ _ _ hi hp h ht hf => agree_attributes hi hp h ht hf⟩

/-! ## 6. One user -/

/-- An engine without conditions and limitations. -/
def plainEngine : Engine := ⟨⟨[], ⟨[]⟩, []⟩, ⟨[]⟩, registry {}⟩

/-- The ids of what is found at a path. -/
def idsAt (path id : String) : Node :=
  .attributes ⟨"users", none, none, [], none, false⟩ (.ofString path)
    [.value ⟨"id", none, none, [], none, false⟩ (some (.ofString id))]

/-- An input with one user. -/
def oneUser : Json := .obj [("users", .arr [.obj [("id", .int 1)]])]

theorem idsAt_alike {A : Path → Path → Prop} {p q id id' : String}
    (hp : A (.ofString p) (.ofString q)) (hid : (Path.ofString id).Alike (.ofString id')) :
    (idsAt p id).Alike A (idsAt q id') :=
  have hinfo : ∀ name, NodeInfo.Alike ⟨name, none, none, [], none, false⟩
      ⟨name, none, none, [], none, false⟩ := fun _ => ⟨rfl, rfl, .none, rfl, rfl, rfl⟩
  .attributes (hinfo _) hp (.cons (.value (hinfo _) (.some hid)) .nil)

theorem oneUser_alike :
    (idsAt "users/*" "id").Alike Path.AlikeAtEnd (idsAt "/users//*" "id/") ∧
    (plainEngine.mapNode (idsAt "/users//*" "id/") oneUser []).result =
      .ok (.arr [.obj [("id", .int 1)]]) ∧
    Agree MappingError.Alike Eq (plainEngine.mapNode (idsAt "users/*" "id") oneUser [])
      (plainEngine.mapNode (idsAt "/users//*" "id/") oneUser []) ∧
    (resolve (.ofString "users/*") oneUser).result = .ok (some (.arr [.obj [("id", .int 1)]])) ∧
    Agree MappingError.Alike
      (fun v w => ∃ sets, SetUnit.BuildAll plainEngine []
        ((idsAt "users/*" "id").units (.arr [.obj [("id", .int 1)]]) []) sets ∧
        v = collapseSets (.ofString "users/*") sets ∧
        w = collapseSets (.ofString "users/*/") sets ∧
        (v = w ↔ (Path.ofString "users/*").endsWithWildcard =
          (Path.ofString "users/*/").endsWithWildcard ∨ sets.length ≠ 1))
      (plainEngine.mapNode (idsAt "users/*" "id") oneUser [])
      (plainEngine.mapNode (idsAt "users/*/" "id") oneUser []) := by
  have h : (idsAt "users/*" "id").Alike Path.AlikeAtEnd (idsAt "/users//*" "id/") :=
    idsAt_alike ⟨rfl, rfl⟩ rfl
  have hinfo : ∀ name, NodeInfo.Alike ⟨name, none, none, [], none, false⟩
      ⟨name, none, none, [], none, false⟩ := fun _ => ⟨rfl, rfl, .none, rfl, rfl, rfl⟩
  have hfields : List.Forall₂ (Node.Alike Path.AlikeAtEnd)
      [.value ⟨"id", none, none, [], none, false⟩ (some (.ofString "id"))]
      [.value ⟨"id", none, none, [], none, false⟩ (some (.ofString "id"))] :=
    .cons (.value (hinfo "id") (.some rfl)) .nil
  obtain ⟨hsame, hends⟩ := mapNode_alike plainEngine oneUser []
  exact ⟨h, rfl, hsame _ _ h, rfl, hends _ _ _ _ _ _ _ (hinfo "users")
    (Path.alike_slashes "users/*" "").2.1.symm hfields rfl rfl⟩

/-- **A slash behind the `*` is not nothing.**  It makes the only set stand bare. -/
theorem oneUser_bare :
    (idsAt "users/*" "id").Alike Path.Alike (idsAt "users/*/" "id") ∧
    (plainEngine.mapNode (idsAt "users/*" "id") oneUser []).result =
      .ok (.arr [.obj [("id", .int 1)]]) ∧
    (plainEngine.mapNode (idsAt "users/*/" "id") oneUser []).result =
      .ok (.obj [("id", .int 1)]) :=
  ⟨idsAt_alike (Path.alike_slashes "users/*" "").2.1.symm rfl, rfl, rfl⟩

end Engine

end Reshape
