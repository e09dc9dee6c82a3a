/-
# The sets that a node builds

Nodes of three kinds build sets of attributes: `attributes`, `items` and `items_all`.  What
they build sets from are their units (`Node.units`), in order: a candidate with the fields of
the node, a candidate with each group, or an entry of a candidate with each group.  A unit
comes to one set or to none (`SetUnit.Builds`), and the sets of a node are those of its units,
in the order of the units.

Main statement: `mapNode_builds_sets`.
-/
import Reshape.Proofs.Engine.Fields
import Reshape.Proofs.Written

namespace Reshape

/-! ## 1. Units -/

/-- What one set of attributes is built from. -/
structure SetUnit where
  /-- What the candidate has to meet; entries of a candidate have nothing to meet. -/
  conditions : Option (List ConditionSpec)
  candidate : Json
  fields : List Node
  params : Parameters

/-- The entries of an object that are not excluded; other values have none. -/
def Json.openEntries (exclude : List String) : Json → Entries Json
  | .obj entries => entries.filter fun entry => !exclude.contains (Text.lowercase entry.1)
  | _ => []

/-- The units of a node at what its path leads to. -/
def Node.units : Node → Json → Parameters → List SetUnit
  | .attributes info _ fields, found, params =>
    found.candidates.map fun candidate => ⟨info.conditions, candidate, fields, params⟩
  | .items info _ groups, found, params =>
    found.candidates.flatMap fun candidate =>
      groups.map fun group => ⟨info.conditions, candidate, group, params⟩
  | .itemsAll _ _ groups exclude, found, params =>
    found.candidates.flatMap fun candidate =>
      (candidate.openEntries exclude).flatMap fun entry =>
        groups.map fun group => ⟨none, entry.2, group, Engine.withKey entry.1 params⟩
  | _, _, _ => []

/-- The value that built sets make up: the array of them, unless it is the only set at a path
of attributes without a `*` at its end. -/
def Node.emitted : Node → List Json → Json
  | .attributes _ path _, sets => Engine.collapseSets path sets
  | _, sets => .arr sets

namespace SetUnit

/-- What the conditions of a unit leave of its candidate. -/
inductive Leaves (e : Engine) (u : SetUnit) : Option Json → Prop
  | all (h : u.conditions = none) : Leaves e u (some u.candidate)
  | met {specs : List ConditionSpec} {item : Option Json} (h : u.conditions = some specs)
      (hr : (e.conditions.apply u.candidate specs).result = .ok item) : Leaves e u item

/-- A required field of a unit has a blank value. -/
def Lacks (u : SetUnit) (vs : List Json) : Prop :=
  ∃ f ∈ u.fields.zip vs, f.1.info.require = true ∧ f.2.isBlank = true

/-- What a unit comes to under limits.  Its set has the values of the fields against what the
conditions leave, under the names of the fields; a later field of a name replaces an earlier
one.  There is no set where the conditions leave nothing, where a required value is blank and
where the set breaks a limit. -/
inductive Builds (e : Engine) (limits : List Limit) (u : SetUnit) : Option Json → Prop
  | skipped (h : u.Leaves e none) : Builds e limits u none
  | lacking {item : Json} {vs : List Json} (h : u.Leaves e (some item))
      (hv : e.Values u.fields item u.params vs) (hl : u.Lacks vs) : Builds e limits u none
  | limited {item : Json} {vs : List Json} {set : Entries Json} (h : u.Leaves e (some item))
      (hv : e.Values u.fields item u.params vs)
      (hw : Entries.Written ((u.fields.map Node.name).zip vs) set)
      (hr : e.document.limitations.rejects limits set = true) : Builds e limits u none
  | built {item : Json} {vs : List Json} {set : Entries Json} (h : u.Leaves e (some item))
      (hv : e.Values u.fields item u.params vs) (hl : ¬u.Lacks vs)
      (hw : Entries.Written ((u.fields.map Node.name).zip vs) set)
      (hr : e.document.limitations.rejects limits set = false) :
      Builds e limits u (some (.obj set))

variable {e : Engine} {limits : List Limit} {u : SetUnit}

/-! ## 2. One outcome for each unit -/

theorem Leaves.unique {item item' : Option Json} (h : u.Leaves e item) (h' : u.Leaves e item') :
    item = item' := by
  rcases h with hn | ⟨hs, hr⟩ <;> rcases h' with hn' | ⟨hs', hr'⟩
  · rfl
  · rw [hn] at hs'; cases hs'
  · rw [hs] at hn'; cases hn'
  · rw [hs, Option.some.injEq] at hs'
    subst hs'
    rw [hr] at hr'
    exact Except.ok.inj hr'

/-- The outcome of a unit with values is that of the engine. -/
theorem builds_iff_of_values {item : Json} {vs : List Json} {outcome : Option Json}
    (h : u.Leaves e (some item)) (hv : e.Values u.fields item u.params vs) :
    u.Builds e limits outcome ↔
      outcome = e.attributeSet limits ((u.fields.map Node.info).zip vs) := by
  have hl : Engine.lacksRequired ((u.fields.map Node.info).zip vs) = true ↔ u.Lacks vs :=
    Engine.lacksRequired_zip u.fields vs
  have hw : Entries.Written ((u.fields.map Node.name).zip vs)
      (Entries.ofList ((u.fields.map Node.name).zip vs)) := Entries.written_ofList _
  rw [Engine.attributeSet, Engine.entriesOf_zip]
  constructor
  · intro hb
    cases hb with
    | skipped h' => cases h.unique h'
    | lacking h' hv' hl' =>
      cases h.unique h'
      cases hv.unique hv'
      simp [hl.mpr hl']
    | limited h' hv' hw' hr =>
      cases h.unique h'
      cases hv.unique hv'
      cases hw.unique hw'
      simp [hr]
    | built h' hv' hl' hw' hr =>
      cases h.unique h'
      cases hv.unique hv'
      cases hw.unique hw'
      have hn := mt hl.mp hl'
      simp [hr, hn]
  · rintro rfl
    by_cases hl' : u.Lacks vs
    · simpa [hl.mpr hl'] using Builds.lacking h hv hl'
    · have hn := mt hl.mp hl'
      cases hr : e.document.limitations.rejects limits
          (Entries.ofList ((u.fields.map Node.name).zip vs)) with
      | true => simpa [hr] using Builds.limited h hv hw hr
      | false => simpa [hr, hn] using Builds.built h hv hl' hw hr

theorem Builds.unique {o o' : Option Json} (h : u.Builds e limits o)
    (h' : u.Builds e limits o') : o = o' := by
  have hskip : ∀ {o}, u.Leaves e none → u.Builds e limits o → o = none := by
    intro o hn hb
    cases hb with
    | built hs => cases hn.unique hs
    | _ => rfl
  have hset : ∀ {item vs o o'}, u.Leaves e (some item) → e.Values u.fields item u.params vs →
      u.Builds e limits o → u.Builds e limits o' → o = o' := by
    intro item vs o o' hs hv hb hb'
    rw [(builds_iff_of_values hs hv).mp hb, (builds_iff_of_values hs hv).mp hb']
  cases h with
  | skipped hn => exact (hskip hn h').symm
  | lacking hs hv hl => exact hset hs hv (.lacking hs hv hl) h'
  | limited hs hv hw hr => exact hset hs hv (.limited hs hv hw hr) h'
  | built hs hv hl hw hr => exact hset hs hv (.built hs hv hl hw hr) h'

/-! ## 3. The outcomes of units in order -/

/-- Units come to these sets: one outcome each, in order, where those without a set are left
out. -/
def BuildAll (e : Engine) (limits : List Limit) (units : List SetUnit) (sets : List Json) : Prop :=
  ∃ outcomes, List.Forall₂ (Builds e limits) units outcomes ∧ sets = outcomes.filterMap id

theorem buildAll_skipped {units : List SetUnit} (h : ∀ u ∈ units, Leaves e u none) :
    BuildAll e limits units [] := by
  refine ⟨units.map fun _ => none, ?_, ?_⟩
  · rw [List.forall₂_map_right_iff, List.forall₂_same]
    exact fun u hu => .skipped (h u hu)
  · induction units <;> simp_all

theorem BuildAll.append {units units' : List SetUnit} {sets sets' : List Json}
    (h : BuildAll e limits units sets) (h' : BuildAll e limits units' sets') :
    BuildAll e limits (units ++ units') (sets ++ sets') := by
  obtain ⟨os, hos, rfl⟩ := h
  obtain ⟨os', hos', rfl⟩ := h'
  exact ⟨os ++ os', List.rel_append hos hos', List.filterMap_append.symm⟩

/-- A loop builds what its rounds build, one after the other. -/
theorem buildAll_flatMap {α : Type} {xs : List α} {units : α → List SetUnit}
    {setss : List (List Json)}
    (h : List.Forall₂ (fun x sets => BuildAll e limits (units x) sets) xs setss) :
    BuildAll e limits (xs.flatMap units) setss.flatten := by
  induction h with
  | nil => exact ⟨[], .nil, rfl⟩
  | cons hx _ ih => exact hx.append ih

/-- Groups against what is left of a candidate build the sets of its units. -/
theorem buildAll_of_mapGroups {conditions : Option (List ConditionSpec)} {candidate item : Json}
    {params : Parameters} {groups : List (List Node)} {sets : List Json}
    (hl : ∀ g, Leaves e ⟨conditions, candidate, g, params⟩ (some item))
    (h : (e.mapGroups groups limits item params).result = .ok sets) :
    BuildAll e limits (groups.map fun g => ⟨conditions, candidate, g, params⟩) sets := by
  rw [Engine.mapGroups_eq_mapM] at h
  obtain ⟨outcomes, ho, hs⟩ := Reporting.result_bind_eq_ok.mp h
  cases hs
  refine ⟨outcomes, ?_, rfl⟩
  rw [List.forall₂_map_left_iff]
  refine (Reporting.result_mapM_eq_ok.mp ho).imp ?_
  intro g outcome hg
  obtain ⟨fs, hfs, hg⟩ := Reporting.result_bind_eq_ok.mp hg
  obtain ⟨vs, hvs, rfl⟩ := Engine.result_mapFields_eq_ok.mp hfs
  cases hg
  exact (builds_iff_of_values (hl g) hvs).mpr rfl

theorem leaves_of_filterCandidate {info : NodeInfo} {candidate : Json} {item : Option Json}
    (h : (e.filterCandidate info candidate).result = .ok item) (fields : List Node)
    (params : Parameters) : Leaves e ⟨info.conditions, candidate, fields, params⟩ item := by
  cases hc : info.conditions with
  | none =>
    rw [Engine.filterCandidate, hc] at h
    cases h
    exact .all rfl
  | some specs =>
    rw [Engine.filterCandidate, hc] at h
    exact .met rfl h

end SetUnit

/-! ## 4. The nodes that build sets -/

namespace Engine

variable {e : Engine} {input found v : Json} {params : Parameters} {info : NodeInfo} {path : Path}

theorem result_transform_none (ht : info.transform = none) (v : Json) :
    (e.transform info v).result = .ok v := by
  rw [transform, ht]
  rfl

theorem result_openCandidate (exclude : List String) (candidate : Json) :
    (openCandidate info path exclude candidate).result = .ok (candidate.openEntries exclude) := by
  cases candidate <;> rfl

/-- What attributes make of candidates: a set of each, or nothing. -/
def setsOf (e : Engine) (info : NodeInfo) (fields : List Node) (params : Parameters)
    (candidates : List Json) : Reporting MappingError (List (Option Json)) :=
  candidates.mapM fun candidate => do
    match ← e.filterCandidate info candidate with
    | none => pure none
    | some item =>
      let fs ← e.mapFields fields item params
      pure (e.attributeSet info.limits fs)

theorem buildAll_of_setsOf {fields : List Node} {outcomes : List (Option Json)}
    (h : (e.setsOf info fields params found.candidates).result = .ok outcomes) :
    SetUnit.BuildAll e info.limits ((Node.attributes info path fields).units found params)
      (outcomes.filterMap id) := by
  refine ⟨outcomes, ?_, rfl⟩
  rw [Node.units, List.forall₂_map_left_iff]
  refine (Reporting.result_mapM_eq_ok.mp h).imp ?_
  intro candidate outcome h
  obtain ⟨item?, hi, h⟩ := Reporting.result_bind_eq_ok.mp h
  have hl := SetUnit.leaves_of_filterCandidate hi fields params
  cases item? with
  | none =>
    cases h
    exact .skipped hl
  | some item =>
    obtain ⟨fs, hfs, h⟩ := Reporting.result_bind_eq_ok.mp h
    obtain ⟨vs, hvs, rfl⟩ := result_mapFields_eq_ok.mp hfs
    cases h
    exact (SetUnit.builds_iff_of_values hl hvs).mpr rfl

theorem attributes_build {fields : List Node} (ht : info.transform = none)
    (hf : (resolve path input).result = .ok (some found))
    (hv : (e.mapNode (.attributes info path fields) input params).result = .ok v) :
    ∃ sets, SetUnit.BuildAll e info.limits ((Node.attributes info path fields).units found params)
      sets ∧ v = collapseSets path sets := by
  rw [mapNode, Reporting.result_bind_of_ok hf] at hv
  obtain ⟨outcomes, ho, hv⟩ := Reporting.result_bind_eq_ok.mp hv
  rw [result_transform_none ht] at hv
  cases hv
  exact ⟨outcomes.filterMap id, buildAll_of_setsOf ho, rfl⟩

theorem items_build {groups : List (List Node)} (ht : info.transform = none)
    (hf : (resolve path input).result = .ok (some found))
    (hv : (e.mapNode (.items info path groups) input params).result = .ok v) :
    ∃ sets, SetUnit.BuildAll e info.limits ((Node.items info path groups).units found params)
      sets ∧ v = .arr sets := by
  rw [mapNode, Reporting.result_bind_of_ok hf] at hv
  obtain ⟨setss, hs, hv⟩ := Reporting.result_bind_eq_ok.mp hv
  rw [result_transform_none ht] at hv
  cases hv
  refine ⟨setss.flatten, SetUnit.buildAll_flatMap ?_, rfl⟩
  refine (Reporting.result_mapM_eq_ok.mp hs).imp ?_
  intro candidate sets h
  obtain ⟨item?, hi, h⟩ := Reporting.result_bind_eq_ok.mp h
  cases item? with
  | none =>
    cases h
    refine SetUnit.buildAll_skipped ?_
    intro u hu
    obtain ⟨g, -, rfl⟩ := List.mem_map.mp hu
    exact SetUnit.leaves_of_filterCandidate hi g params
  | some item =>
    exact SetUnit.buildAll_of_mapGroups (fun g => SetUnit.leaves_of_filterCandidate hi g params) h

theorem itemsAll_build {groups : List (List Node)} {exclude : List String}
    (ht : info.transform = none) (hf : (resolve path input).result = .ok (some found))
    (hv : (e.mapNode (.itemsAll info path groups exclude) input params).result = .ok v) :
    ∃ sets, SetUnit.BuildAll e info.limits
      ((Node.itemsAll info path groups exclude).units found params) sets ∧ v = .arr sets := by
  rw [mapNode, Reporting.result_bind_of_ok hf] at hv
  obtain ⟨setss, hs, hv⟩ := Reporting.result_bind_eq_ok.mp hv
  rw [result_transform_none ht] at hv
  cases hv
  refine ⟨setss.flatten, SetUnit.buildAll_flatMap ?_, rfl⟩
  refine (Reporting.result_mapM_eq_ok.mp hs).imp ?_
  intro candidate sets h
  rw [Reporting.result_bind_of_ok (result_openCandidate exclude candidate)] at h
  obtain ⟨perEntry, hp, h⟩ := Reporting.result_bind_eq_ok.mp h
  cases h
  refine SetUnit.buildAll_flatMap ?_
  refine (Reporting.result_mapM_eq_ok.mp hp).imp ?_
  intro entry sets h
  exact SetUnit.buildAll_of_mapGroups (fun g => .all rfl) h

/-- **Sets are neither lost nor made up, and they keep their order.**  A node that builds sets
and transforms nothing has the outcomes of its units, one each and in order; there are no
others. -/
theorem mapNode_builds_sets {n : Node}
    (hk : n.kind? = some .attributes ∨ n.kind? = some .items ∨ n.kind? = some .itemsAll)
    (ht : n.info.transform = none) (hp : n.path? = some path)
    (hf : (resolve path input).result = .ok (some found))
    (hv : (e.mapNode n input params).result = .ok v) :
    ∃ outcomes, List.Forall₂ (SetUnit.Builds e n.info.limits) (n.units found params) outcomes ∧
      (∀ outcomes', List.Forall₂ (SetUnit.Builds e n.info.limits) (n.units found params) outcomes' →
        outcomes' = outcomes) ∧
      v = n.emitted (outcomes.filterMap id) := by
  have hb : ∃ sets, SetUnit.BuildAll e n.info.limits (n.units found params) sets ∧
      v = n.emitted sets := by
    cases n with
    | attributes =>
      cases hp
      exact attributes_build ht hf hv
    | items =>
      cases hp
      exact items_build ht hf hv
    | itemsAll =>
      cases hp
      exact itemsAll_build ht hf hv
    | _ => simp [Node.kind?] at hk
  obtain ⟨sets, ⟨outcomes, ho, rfl⟩, rfl⟩ := hb
  refine ⟨outcomes, ho, ?_, rfl⟩
  intro outcomes' ho'
  exact List.right_unique_forall₂' (fun _ _ _ h h' => h.unique h') ho' ho

/-! ## 5. A node with every outcome -/

/-- An engine with the colors on sale, and a condition on what is not blank. -/
def paintEngine : Engine where
  document := ⟨[], ⟨[("on sale", .arr [.str "red"])]⟩, []⟩
  conditions := ⟨[("filled", fun v => !v.isBlank)]⟩
  transforms := registry {}

/-- A set with the id of a paint, which is required, and a set with its color, which must be on
sale. -/
def paintNode : Node :=
  .items ⟨"paints", none, some [⟨"filled", none, none⟩], [⟨"color", "on sale"⟩], none, false⟩
    (.ofString "paints")
    [[.value ⟨"id", none, none, [], none, true⟩ (some (.ofString "id"))],
      [.value ⟨"color", none, none, [], none, false⟩ (some (.ofString "color"))]]

/-- A paint, an empty object, and a paint without an id whose color is not on sale. -/
def paints : Json :=
  .arr [.obj [("id", .int 7), ("color", .str "red")], .obj [], .obj [("color", .str "blue")]]

theorem paintNode_builds_sets :
    paintNode.kind? = some .items ∧ paintNode.info.transform = none ∧
    paintNode.path? = some (.ofString "paints") ∧
    (resolve (.ofString "paints") (.obj [("paints", paints)])).result = .ok (some paints) ∧
    (paintEngine.mapNode paintNode (.obj [("paints", paints)]) []).result =
      .ok (.arr [.obj [("id", .int 7)], .obj [("color", .str "red")]]) ∧
    ∃ outcomes, List.Forall₂ (SetUnit.Builds paintEngine paintNode.info.limits)
        (paintNode.units paints []) outcomes ∧
      (∀ outcomes', List.Forall₂ (SetUnit.Builds paintEngine paintNode.info.limits)
        (paintNode.units paints []) outcomes' → outcomes' = outcomes) ∧
      Json.arr [.obj [("id", .int 7)], .obj [("color", .str "red")]] =
        paintNode.emitted (outcomes.filterMap id) :=
  have hv : (paintEngine.mapNode paintNode (.obj [("paints", paints)]) []).result =
      .ok (.arr [.obj [("id", .int 7)], .obj [("color", .str "red")]]) := rfl
  ⟨rfl, rfl, rfl, rfl, hv, mapNode_builds_sets (.inr (.inl rfl)) rfl rfl rfl hv⟩

end Engine

end Reshape
