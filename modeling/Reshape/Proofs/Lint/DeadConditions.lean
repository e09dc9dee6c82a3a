/-
# Conditions that make no difference

A node may have conditions that make no difference to any run (`Node.Dead`): the same node
without them comes to the same, whatever the engine, the input and the parameters.

Five kinds of nodes never look at their conditions, and neither do plain values without a path
(`Node.Overlooks`).  Of these, linting tells of items_all only.  Where conditions are looked at,
they are not dead if there are any: an engine that knows none of them fails.  A list without
conditions leaves nothing of any candidate, and makes no difference only to a node that can come
to nothing anyway (`Node.Barren`).

Main statement: `lint_deadConditions`.
-/
import Mathlib.Data.List.Nodup
import Reshape.Proofs.Engine.Nulls
import Reshape.Proofs.Lint.Visits
import Reshape.Proofs.Transform.Chains

namespace Reshape

open Reporting

/-! ## 1. Nodes without their conditions -/

namespace Node

/-- A node that says the same but has no conditions. -/
def withoutConditions : Node → Node
  | .value info path => .value info.unconditional path
  | .attributes info path fields => .attributes info.unconditional path fields
  | .nested info fields => .nested info.unconditional fields
  | .items info path groups => .items info.unconditional path groups
  | .itemsAll info path groups exclude => .itemsAll info.unconditional path groups exclude
  | .hash info path fields => .hash info.unconditional path fields
  | .array info elements => .array info.unconditional elements
  | .hashArray info path fields => .hashArray info.unconditional path fields
  | .mergeArrays info paths => .mergeArrays info.unconditional paths

/-- No run of any engine tells a node from the same node without its conditions. -/
def Dead (n : Node) : Prop :=
  ∀ (d : Document) (o : Options) (e : Engine), Engine.ofDocument d o = .ok e →
    ∀ (input : Json) (params : Parameters),
      (e.mapNode n input params).result = (e.mapNode n.withoutConditions input params).result

/-- The nodes that look at no conditions. -/
def Overlooks : Node → Prop
  | .value _ path => path = none
  | .attributes _ _ _ => False
  | .items _ _ _ => False
  | .hash _ _ _ => False
  | _ => True

/-- Nodes that may come to nothing, whatever they are mapped against: a hash without fields, or
sets of attributes all of which require something. -/
def Barren : Node → Prop
  | .attributes _ _ fields => ∃ f ∈ fields, f.info.require = true
  | .items _ _ groups => ∀ g ∈ groups, ∃ f ∈ g, f.info.require = true
  | .hash _ _ fields => fields = []
  | _ => False

variable {n : Node} {specs : List ConditionSpec}

theorem Filters.withoutConditions (h : n.Filters) : n.withoutConditions = n.unconditional := by
  cases n with
  | attributes | items | hash => rfl
  | _ => simp [Filters, kind?] at h

theorem Filters.exists_path (h : n.Filters) : ∃ path, n.path? = some path := by
  cases n with
  | attributes | items | hash => exact ⟨_, rfl⟩
  | _ => simp [Filters, kind?] at h

/-- What looks at its conditions is a plain value at a path, or puts candidates through them. -/
theorem value_or_filters (h : ¬n.Overlooks) :
    (∃ info path, n = .value info (some path)) ∨ n.Filters := by
  cases n with
  | value info path =>
    cases path with
    | none => exact absurd rfl h
    | some path => exact .inl ⟨info, path, rfl⟩
  | attributes | items | hash => exact .inr (by simp [Filters, kind?])
  | _ => exact absurd trivial h

end Node

namespace Engine

variable {e : Engine} {n : Node} {info : NodeInfo} {path : Path} {input found : Json}
  {params : Parameters} {specs : List ConditionSpec} {spec : ConditionSpec}

/-- **Where no conditions are looked at**, a run without them says and does the same. -/
theorem mapNode_withoutConditions (h : n.Overlooks) (e : Engine) (input : Json)
    (params : Parameters) :
    e.mapNode n.withoutConditions input params = e.mapNode n input params := by
  cases n with
  | value info path =>
    obtain rfl : path = none := h
    rw [Node.withoutConditions, mapNode, mapNode]
    rfl
  | attributes | items | hash => exact absurd h id
  | nested info fields => rw [Node.withoutConditions, mapNode, mapNode]
  | _ =>
    rw [Node.withoutConditions, mapNode, mapNode]
    rfl

/-! ## 2. Conditions that are there -/

/-- A plain value without conditions, by what its path leads to. -/
theorem result_value_unconditional (hc : info.conditions = none)
    (hf : (resolve path input).result = .ok (some found)) :
    (e.mapNode (.value info (some path)) input params).result =
      (do let v ← e.transform info found
          pure (Template.fill params v)).result := by
  obtain ⟨name, transform, conditions, limits, default, require⟩ := info
  cases hc
  rw [mapNode]
  unfold mapValue
  exact result_bind_of_ok hf _

/-- A plain value with conditions, by what its path leads to. -/
theorem result_value_conditional (hc : info.conditions = some specs)
    (hf : (resolve path input).result = .ok (some found)) :
    (e.mapNode (.value info (some path)) input params).result =
      (do let v ← match ← e.conditions.apply found specs with
            | some matched => e.transform info matched
            | none => pure ((info.default.map (Template.fill params)).getD .null)
          pure (Template.fill params v)).result := by
  obtain ⟨name, transform, conditions, limits, default, require⟩ := info
  cases hc
  rw [mapNode]
  unfold mapValue
  exact result_bind_of_ok hf _

/-- An engine without a document: with the transforms of options, and without conditions. -/
def bare (o : Options) : Engine := ⟨⟨[], ⟨[]⟩, []⟩, ⟨[]⟩, registry o⟩

theorem ofDocument_bare (o : Options) : ofDocument ⟨[], ⟨[]⟩, []⟩ o = .ok (bare o) := rfl

theorem result_conditions_bare (o : Options) (v : Json) :
    ((bare o).conditions.apply v (spec :: specs)).result =
      .error (.condition (.unknown spec.name)) := rfl

/-- Without conditions, what a node that looks at them makes of nulls fails in a transform only. -/
theorem onlyFails_withoutConditions (hl : ¬n.Overlooks) (hp : n.path? = some path) {k : Nat}
    (hf : path.outcome input = .ok (some (.arr (List.replicate k .null)))) :
    OnlyFails IsTransformError (e.mapNode n.withoutConditions input params) := by
  have hf' := result_resolve_of_outcome hf
  intro err herr
  rcases Node.value_or_filters hl with ⟨info, p, rfl⟩ | hn
  · cases hp
    rw [Node.withoutConditions, result_value_unconditional rfl hf'] at herr
    exact (onlyFails_transform e _ _).bind (fun _ => onlyFails_pure _) err herr
  · rw [hn.withoutConditions, mapNode_unconditional hn hp hf'] at herr
    exact onlyFails_mapCandidates_null n k err herr

/-- An engine that knows no conditions fails where the first one is looked up. -/
theorem result_mapNode_bare (hl : ¬n.Overlooks) (hc : n.info.conditions = some (spec :: specs))
    (hp : n.path? = some path) (o : Options)
    (hf : path.outcome input = .ok (some (.arr [.null]))) :
    ((bare o).mapNode n input params).result = .error (.condition (.unknown spec.name)) := by
  have hf' := result_resolve_of_outcome hf
  rcases Node.value_or_filters hl with ⟨info, p, rfl⟩ | hn
  · cases hp
    have hc : info.conditions = some (spec :: specs) := hc
    rw [result_value_conditional hc hf']
    rfl
  · obtain ⟨γ, round, finish, hnode, -⟩ := mapNode_eq_rounds (bare o) hn hp params
    rw [hnode hf', result_bind_eq_error]
    refine .inl ?_
    have hfilter : ((bare o).filterCandidate n.info .null).result =
        .error (.condition (.unknown spec.name)) := by
      rw [filterCandidate, hc]
      exact result_conditions_bare o .null
    rw [Json.candidates, rounds_cons, result_bind_eq_error]
    exact .inl hfilter

/-- **Conditions that are looked at are not dead.** -/
theorem conditions_eq_nil_of_dead (h : n.Dead) (hl : ¬n.Overlooks)
    (hc : n.info.conditions = some specs) : specs = [] := by
  cases specs with
  | nil => rfl
  | cons spec specs =>
    obtain ⟨path, hp⟩ : ∃ path, n.path? = some path := by
      rcases Node.value_or_filters hl with ⟨info, p, rfl⟩ | hn
      · exact ⟨p, rfl⟩
      · exact hn.exists_path
    obtain ⟨input, hf⟩ := path.exists_outcome_nulls 1
    have hfails : ((bare {}).mapNode n input []).result =
        .error (.condition (.unknown spec.name)) := result_mapNode_bare hl hc hp {} hf
    rw [h _ _ _ (ofDocument_bare {})] at hfails
    obtain ⟨te, hte⟩ := onlyFails_withoutConditions hl hp hf _ hfails
    cases hte

/-! ## 3. Lists without conditions -/

/-- The transform that changes nothing. -/
def still : Transform := fun v _ => pure v

/-- Options by which the transform of a node changes nothing. -/
def stillOptions (info : NodeInfo) : Options where
  transforms := (info.transform.getD []).map fun step => (step.name, still)

theorem get?_stillOptions {steps : TransformSpec} (hs : info.transform = some steps)
    {step : TransformStep} (h : step ∈ steps) :
    Entries.get? step.name (registry (stillOptions info)).entries = some still := by
  have hregistry : registry (stillOptions info) =
      TransformRegistry.builtin.registerAll (steps.map fun step => (step.name, still)) := by
    rw [registry, stillOptions, hs]
    rfl
  rw [hregistry, TransformRegistry.get?_registerAll]
  cases hg : Entries.get? step.name (steps.map fun step => (step.name, still)).reverse with
  | none =>
    refine absurd ?_ (Entries.get?_eq_none_iff.mp hg)
    rw [Entries.keys, List.mem_map]
    exact ⟨(step.name, still), List.mem_reverse.mpr (List.mem_map.mpr ⟨step, h, rfl⟩), rfl⟩
  | some t =>
    obtain ⟨step', -, hstep⟩ :=
      List.mem_map.mp (List.mem_reverse.mp (Entries.mem_of_get? hg))
    rw [← (Prod.mk.inj hstep).2]
    rfl

theorem result_apply_still {r : TransformRegistry} {steps : TransformSpec}
    (h : ∀ step ∈ steps, Entries.get? step.name r.entries = some still) (v : Json) :
    (r.apply v steps).result = .ok v := by
  induction steps with
  | nil => rfl
  | cons step steps ih =>
    have hstep : (r.applyStep v step).result = .ok v := by
      rw [TransformRegistry.applyStep, h step List.mem_cons_self]
      rfl
    rw [TransformRegistry.apply, result_bind_of_ok hstep,
      ih fun s hs => h s (List.mem_cons_of_mem step hs)]

theorem result_transform_still (info : NodeInfo) (v : Json) :
    ((bare (stillOptions info)).transform info v).result = .ok v := by
  refine Result.mapError_eq_ok.mpr ?_
  cases hs : info.transform with
  | none => rfl
  | some steps => exact result_apply_still (fun step h => get?_stillOptions hs h) v

/-- A list without conditions leaves nothing of any candidate. -/
theorem mapNode_of_nil (hn : n.Filters) (hc : n.info.conditions = some [])
    (hp : n.path? = some path) (hf : (resolve path input).result = .ok (some found)) :
    (e.mapNode n input params).result = (e.mapCandidates n [] params).result := by
  obtain ⟨γ, round, finish, hnode, hcandidates⟩ := mapNode_eq_rounds e hn hp params
  have hleft : List.Forall₂ (fun c o => (e.filterCandidate n.info c).result = .ok o)
      found.candidates (List.replicate found.candidates.length none) :=
    Result.forall₂_replicate fun c _ => by
      rw [filterCandidate, hc]
      rfl
  have hnone : (List.replicate found.candidates.length (none : Option Json)).filterMap id = [] := by
    simp
  rw [hnode hf, hcandidates, result_bind, result_bind, result_rounds hleft, hnone]

/-- A node whose list without conditions is dead makes of a null what it makes of nothing. -/
theorem mapCandidates_null_of_dead (h : n.Dead) (hn : n.Filters)
    (hc : n.info.conditions = some []) (o : Options) :
    ((bare o).mapCandidates n [.null] []).result = ((bare o).mapCandidates n [] []).result := by
  obtain ⟨path, hp⟩ := hn.exists_path
  obtain ⟨input, hf⟩ := path.exists_outcome_nulls 1
  have hf' := result_resolve_of_outcome hf
  have hrun := h _ _ _ (ofDocument_bare o) input []
  rw [mapNode_of_nil hn hc hp hf', hn.withoutConditions, mapNode_unconditional hn hp hf'] at hrun
  exact hrun.symm

/-- Without limitations, a set is held back only if it lacks something required. -/
theorem exists_require_of_attributeSet {o : Options} {ns : List Node} {limits : List Limit}
    {v : Json} {fs : Fields} (hfs : ((bare o).mapFields ns v params).result = .ok fs)
    (hset : (bare o).attributeSet limits fs = none) : ∃ f ∈ ns, f.info.require = true := by
  have hrejects : (bare o).document.limitations.rejects limits (Entries.ofList (entriesOf fs)) =
      false := by
    rw [Limitations.rejects, List.any_eq_false]
    intro limit _ hbroken
    rw [Limitations.isBroken] at hbroken
    split at hbroken
    · next items _ hitems => cases hitems
    · cases hbroken
  rw [attributeSet, hrejects, Bool.or_false] at hset
  obtain ⟨vs, -, rfl⟩ := result_mapFields_eq_ok.mp hfs
  obtain ⟨f, hf, hrequire, -⟩ := (lacksRequired_zip ns vs).mp (by simpa using hset)
  exact ⟨f.1, (List.of_mem_zip hf).1, hrequire⟩

/-- A list without conditions is never dead at a plain value: the default cannot be both an array
of one null and an array of two. -/
theorem not_dead_value (hc : info.conditions = some []) : ¬(Node.value info (some path)).Dead := by
  intro h
  have hdefault : ∀ k, Template.fill [] ((info.default.map (Template.fill [])).getD .null) =
      .arr (List.replicate k .null) := fun k => by
    obtain ⟨input, hf⟩ := path.exists_outcome_nulls k
    have hf' := result_resolve_of_outcome hf
    have hrun := h _ _ _ (ofDocument_bare (stillOptions info)) input []
    have hstill : ((bare (stillOptions info)).transform info.unconditional
        (.arr (List.replicate k .null))).result = .ok (.arr (List.replicate k .null)) :=
      result_transform_still info _
    rw [result_value_conditional hc hf', Node.withoutConditions,
      result_value_unconditional rfl hf', result_bind_of_ok hstill] at hrun
    exact Except.ok.inj hrun
  have htwo := (hdefault 1).symm.trans (hdefault 2)
  simp at htwo

theorem require_of_dead_attributes {fields : List Node} (hc : info.conditions = some [])
    (h : (Node.attributes info path fields).Dead) : ∃ f ∈ fields, f.info.require = true := by
  have hnull := mapCandidates_null_of_dead h (.inl rfl) hc (stillOptions info)
  simp only [mapCandidates, List.mapM_cons, List.mapM_nil, bind_assoc, pure_bind] at hnull
  rw [result_transform_still] at hnull
  obtain ⟨fs, hfs, hvalue⟩ := result_bind_eq_ok.mp hnull
  rw [result_transform_still] at hvalue
  cases hset : (bare (stillOptions info)).attributeSet info.limits fs with
  | none => exact exists_require_of_attributeSet hfs hset
  | some set =>
    rw [hset] at hvalue
    rw [attributeSet] at hset
    split at hset
    · cases hset
    · -- the only set stands bare or in an array, which is not the empty one
      cases hset
      refine absurd (Except.ok.inj hvalue) ?_
      change collapseSets path [.obj _] ≠ .arr []
      rw [collapseSets]
      split <;> simp

theorem require_of_dead_items {groups : List (List Node)} (hc : info.conditions = some [])
    (h : (Node.items info path groups).Dead) :
    ∀ g ∈ groups, ∃ f ∈ g, f.info.require = true := by
  intro g hg
  have hnull := mapCandidates_null_of_dead h (.inr (.inl rfl)) hc (stillOptions info)
  simp only [mapCandidates, List.mapM_cons, List.mapM_nil, bind_assoc, pure_bind] at hnull
  rw [result_transform_still] at hnull
  obtain ⟨sets, hsets, hvalue⟩ := result_bind_eq_ok.mp hnull
  rw [result_transform_still, List.flatten_cons, List.flatten_nil, List.append_nil] at hvalue
  obtain rfl : sets = [] := Json.arr.inj (Except.ok.inj hvalue)
  rw [mapGroups_eq_mapM, result_bind_pure] at hsets
  obtain ⟨made, hmade, hempty⟩ := Result.map_eq_ok.mp hsets
  obtain ⟨set, hmem, hset⟩ := Result.exists_of_forall₂ (result_mapM_eq_ok.mp hmade).flip hg
  obtain ⟨fs, hfs, hset⟩ := result_bind_eq_ok.mp hset
  obtain rfl := Except.ok.inj hset
  exact exists_require_of_attributeSet hfs (List.filterMap_eq_nil_iff.mp hempty.symm _ hmem)

theorem fields_eq_nil_of_dead {fields : List Node} (hc : info.conditions = some [])
    (h : (Node.hash info path fields).Dead) : fields = [] := by
  have hnull := mapCandidates_null_of_dead h (.inr (.inr rfl)) hc (stillOptions info)
  simp only [mapCandidates, List.mapM_cons, List.mapM_nil, bind_assoc, pure_bind] at hnull
  obtain ⟨fs, hfs, hvalue⟩ := result_bind_eq_ok.mp hnull
  rw [List.flatten_cons, List.flatten_nil, List.append_nil] at hvalue
  have hwritten : Entries.ofList (entriesOf fs) = [] := Json.obj.inj (Except.ok.inj hvalue)
  have hkeys := congrArg Entries.keys hwritten
  rw [Entries.keys_ofList, keys_entriesOf hfs] at hkeys
  cases fields with
  | nil => rfl
  | cons f fields => simp [List.eraseDups_cons] at hkeys

/-- **A list without conditions is dead only where a node may come to nothing anyway.** -/
theorem barren_of_dead (h : n.Dead) (hl : ¬n.Overlooks) (hc : n.info.conditions = some []) :
    n.Barren := by
  cases n with
  | value info path =>
    cases path with
    | none => exact absurd rfl hl
    | some path => exact absurd h (not_dead_value hc)
  | attributes => exact require_of_dead_attributes hc h
  | items => exact require_of_dead_items hc h
  | hash => exact fields_eq_nil_of_dead hc h
  | _ => exact absurd trivial hl

/-- A list without conditions is dead at a node that makes of all candidates what it makes of
none. -/
theorem dead_of_mapCandidates (hn : n.Filters) (hc : n.info.conditions = some [])
    (h : ∀ (e : Engine) (candidates : List Json) (params : Parameters),
      (e.mapCandidates n [] params).result = (e.mapCandidates n candidates params).result) :
    n.Dead := by
  intro d o e _ input params
  obtain ⟨path, hp⟩ := hn.exists_path
  rw [hn.withoutConditions]
  cases hf : (resolve path input).result with
  | ok found? =>
    cases found? with
    | some found =>
      rw [mapNode_of_nil hn hc hp hf, mapNode_unconditional hn hp hf]
      exact h e found.candidates params
    | none =>
      -- the default does not depend on conditions
      cases n with
      | attributes | items | hash =>
        cases hp
        rw [Node.unconditional, mapNode, mapNode, result_bind_of_ok hf, result_bind_of_ok hf]
        rfl
      | _ => simp [Node.Filters, Node.kind?] at hn
  | error err =>
    cases n with
    | attributes | items | hash =>
      cases hp
      rw [Node.unconditional, mapNode, mapNode, result_bind, result_bind, hf]
      rfl
    | _ => simp [Node.Filters, Node.kind?] at hn

theorem result_mapCandidates_hash_nil (candidates : List Json) :
    (e.mapCandidates (.hash info path []) candidates params).result = .ok (.obj []) := by
  have hwritten : (candidates.mapM fun item => do
      let fs ← e.mapFields [] item params
      pure (entriesOf fs)).result = .ok (List.replicate candidates.length []) :=
    result_mapM_eq_ok.mpr <| Result.forall₂_replicate fun c _ => by
      rw [mapFields]
      rfl
  rw [mapCandidates, result_bind_of_ok hwritten, List.flatten_replicate_nil]
  rfl

/-- So does an attributes node all of whose sets are held back. -/
theorem dead_attributes_of_held {fields : List Node} (hc : info.conditions = some [])
    (h : ∀ (e : Engine) (item : Json) (params : Parameters),
      (do let fs ← e.mapFields fields item params
          pure (e.attributeSet info.limits fs)).result = .ok none) :
    (Node.attributes info path fields).Dead := by
  refine dead_of_mapCandidates (.inl rfl) hc fun e candidates params => ?_
  have hsets : (candidates.mapM fun item => do
      let fs ← e.mapFields fields item params
      pure (e.attributeSet info.limits fs)).result =
        .ok (List.replicate candidates.length none) :=
    result_mapM_eq_ok.mpr <| Result.forall₂_replicate fun c _ => h e c params
  have hnone : (List.replicate candidates.length (none : Option Json)).filterMap id = [] := by
    simp
  rw [mapCandidates, mapCandidates, result_bind_of_ok hsets, hnone]
  rfl

theorem dead_hash_nil (hc : info.conditions = some []) : (Node.hash info path []).Dead :=
  dead_of_mapCandidates (.inr (.inr rfl)) hc fun e candidates params => by
    rw [result_mapCandidates_hash_nil, result_mapCandidates_hash_nil]

end Engine

/-! ## 4. What linting tells -/

namespace Document

variable {v : Json} {d : Document} {p : Location} {n m : Node} {specs : List ConditionSpec}

/-- Only one node stands at a place. -/
theorem StandsAt.unique (hn : d.StandsAt p n) (hm : d.StandsAt p m) : n = m := by
  obtain ⟨visited, h⟩ := Node.exists_visits (Node.placedFrom objectsPlace 0 d.objects)
  have hplaces := h.nodup (Node.pairwise_apart_placedFrom objectsPlace 0 d.objects)
  exact (Prod.mk.inj
    (List.inj_on_of_nodup_map hplaces (h.mem_iff.mpr hn) (h.mem_iff.mpr hm) rfl)).2

/-- Conditions are told to be ignored where they stand at an items_all node. -/
theorem mem_findings_ignoredConditions (hn : d.StandsAt p n) :
    .ignoredConditions (p.key "conditions") ∈ d.findings ↔
      n.info.conditions.isSome = true ∧ n.kind? = some .itemsAll := by
  rw [mem_findings_iff]
  constructor
  · rintro (hf | ⟨q, m, hm, hf⟩)
    · obtain ⟨entry, -, err, -, hf⟩ := mem_definitionFindings.mp hf
      cases hf
    · rcases mem_ownFindings_iff.mp hf with ⟨i, spec, -, -, hf⟩ | ⟨hc, hk, hf⟩ |
        ⟨i, step, -, -, hf⟩ | ⟨i, limit, -, -, hf⟩
      · cases hf
      · obtain rfl : p = q := Location.key_inj.mp (Finding.ignoredConditions.inj hf)
        rw [hn.unique hm]
        exact ⟨hc, hk⟩
      · cases hf
      · cases hf
  · rintro ⟨hc, hk⟩
    exact .inr ⟨p, n, hn, mem_ownFindings_iff.mpr (.inr (.inl ⟨hc, hk, rfl⟩))⟩

/-- **What linting tells of dead conditions.**  It tells of the conditions of a node exactly if
that is an items_all node.  These are dead, as are all conditions of nodes that look at none.  Other
conditions that are dead, of which nothing is told, are lists without conditions, at nodes that may
come to nothing anyway. -/
theorem lint_deadConditions (hd : ofJson v = .ok d) (hn : d.StandsAt p n)
    (hc : n.info.conditions = some specs) :
    (.ignoredConditions (p.key "conditions") ∈ v.lint ↔ n.kind? = some .itemsAll) ∧
    (n.Overlooks → n.Dead ∧ ∀ (e : Engine) (input : Json) (params : Parameters),
      e.mapNode n.withoutConditions input params = e.mapNode n input params) ∧
    (n.Dead → .ignoredConditions (p.key "conditions") ∈ v.lint ∨
      n.Overlooks ∧ n.kind? ≠ some .itemsAll ∨ specs = [] ∧ n.Barren) ∧
    (n.kind? = some .hash → (n.Dead ↔ specs = [] ∧ n.Barren)) := by
  have hlint : .ignoredConditions (p.key "conditions") ∈ v.lint ↔ n.kind? = some .itemsAll := by
    rw [Json.lint_eq_findings hd, mem_findings_ignoredConditions hn, hc]
    exact and_iff_right rfl
  have hdead : n.Dead → ¬n.Overlooks → specs = [] ∧ n.Barren := fun h hl => by
    obtain rfl := Engine.conditions_eq_nil_of_dead h hl hc
    exact ⟨rfl, Engine.barren_of_dead h hl hc⟩
  refine ⟨hlint, fun ho => ⟨?_, fun e => Engine.mapNode_withoutConditions ho e⟩, fun h => ?_,
    fun hk => ?_⟩
  · intro d o e _ input params
    rw [Engine.mapNode_withoutConditions ho]
  · rw [hlint]
    by_cases hk : n.kind? = some .itemsAll
    · exact .inl hk
    · by_cases ho : n.Overlooks
      · exact .inr (.inl ⟨ho, hk⟩)
      · exact .inr (.inr (hdead h ho))
  · cases n with
    | hash info path fields =>
      refine ⟨fun h => hdead h id, ?_⟩
      rintro ⟨rfl, hfields⟩
      obtain rfl : fields = [] := hfields
      exact Engine.dead_hash_nil hc
    | _ => cases hk

/-- What says nothing but a name and conditions. -/
def gate (name : String) (specs : List ConditionSpec) : NodeInfo :=
  { NodeInfo.named name with conditions := some specs }

/-- A node for every key of a value. -/
def everyKey : Node := .itemsAll (gate "all" [⟨"open", none, none⟩]) (.ofString "all") [] []

/-- A group of values. -/
def bothValues : Node := .nested (gate "both" [⟨"open", none, none⟩]) []

/-- A plain value. -/
def oneValue : Node := .value (gate "one" [⟨"open", none, none⟩]) (some (.ofString "one"))

/-- Sets that require a value which is not there. -/
def heldSets : Node :=
  .attributes (gate "sets" []) (.ofString "sets/*")
    [.value { NodeInfo.named "id" with require := true } none]

/-- A mapping of these nodes. -/
def gated : Json :=
  let spec : Json := .obj [("name", .str "open")]
  .obj [("conditions", .obj [("open", .obj [("class", .str "Present")])]),
    ("objects", .arr [
      .obj [("name", .str "all"), ("path", .str "all"), ("items_all", .arr []),
        ("conditions", .arr [spec])],
      .obj [("name", .str "both"), ("nested", .arr []), ("conditions", .arr [spec])],
      .obj [("name", .str "one"), ("path", .str "one"), ("conditions", .arr [spec])],
      .obj [("name", .str "sets"), ("path", .str "sets/*"), ("conditions", .arr []),
        ("attributes", .arr [.obj [("name", .str "id"), ("require", .bool true)]])]])]

/-- The document that it loads as. -/
def gatedDocument : Document :=
  ⟨[("open", ⟨"Present", .null⟩)], ⟨[]⟩, [everyKey, bothValues, oneValue, heldSets]⟩

theorem ofJson_gated : ofJson gated = .ok gatedDocument := rfl

theorem gated_standsAt {i : Nat} {n : Node} (h : gatedDocument.objects[i]? = some n) :
    gatedDocument.StandsAt (objectsPlace.index i) n :=
  ⟨(objectsPlace.index i, n), List.mem_map.mpr ⟨(n, i), List.mem_zipIdx_iff_getElem?.mpr h, rfl⟩,
    .self⟩

theorem heldSets_dead : heldSets.Dead := by
  refine Engine.dead_attributes_of_held rfl fun e item params => ?_
  rw [Engine.mapFields, Engine.mapFields, Engine.mapNode]
  rfl

theorem lint_gated :
    (everyKey.Dead ∧
      .ignoredConditions ((objectsPlace.index 0).key "conditions") ∈ gated.lint) ∧
    (bothValues.Dead ∧
      .ignoredConditions ((objectsPlace.index 1).key "conditions") ∉ gated.lint) ∧
    ¬oneValue.Dead ∧ heldSets.Barren := by
  obtain ⟨hall, hallDead, -, -⟩ :=
    lint_deadConditions (p := objectsPlace.index 0) (n := everyKey) ofJson_gated
      (gated_standsAt rfl) rfl
  obtain ⟨hboth, hbothDead, -, -⟩ :=
    lint_deadConditions (p := objectsPlace.index 1) (n := bothValues) ofJson_gated
      (gated_standsAt rfl) rfl
  obtain ⟨hone, -, honeDead, -⟩ :=
    lint_deadConditions (p := objectsPlace.index 2) (n := oneValue) ofJson_gated
      (gated_standsAt rfl) rfl
  obtain ⟨hsets, -, hsetsDead, -⟩ :=
    lint_deadConditions (p := objectsPlace.index 3) (n := heldSets) ofJson_gated
      (gated_standsAt rfl) rfl
  refine ⟨⟨(hallDead trivial).1, hall.mpr rfl⟩, ⟨(hbothDead trivial).1, fun h => ?_⟩,
    fun h => ?_, ?_⟩
  · cases hboth.mp h
  · rcases honeDead h with h | ⟨h, -⟩ | ⟨h, -⟩
    · cases hone.mp h
    · cases h
    · cases h
  · rcases hsetsDead heldSets_dead with h | ⟨h, -⟩ | ⟨-, h⟩
    · cases hsets.mp h
    · exact absurd h id
    · exact h

/-- The conditions of a nested node and a list without conditions are dead, and nothing is told of
them. -/
theorem gated_untold :
    (¬∀ (v : Json) (d : Document) (p : Location) (n : Node) (specs : List ConditionSpec),
      ofJson v = .ok d → d.StandsAt p n → n.info.conditions = some specs → n.Dead →
        .ignoredConditions (p.key "conditions") ∈ v.lint) ∧
    ∀ i ∈ [1, 3], ∃ n, gatedDocument.StandsAt (objectsPlace.index i) n ∧ n.Dead ∧
      .ignoredConditions ((objectsPlace.index i).key "conditions") ∉ gated.lint := by
  have hboth : bothValues.Dead := by
    intro d o e _ input params
    rw [Engine.mapNode_withoutConditions (n := bothValues) trivial]
  have huntold : ∀ i ∈ [1, 3],
      .ignoredConditions ((objectsPlace.index i).key "conditions") ∉ gated.lint := by decide
  refine ⟨fun h => ?_, fun i hi => ?_⟩
  · exact huntold 1 (by decide)
      (h gated gatedDocument _ bothValues _ ofJson_gated (gated_standsAt rfl) rfl hboth)
  · simp only [List.mem_cons, List.not_mem_nil, or_false] at hi
    obtain rfl | rfl := hi
    · exact ⟨bothValues, gated_standsAt rfl, hboth, huntold 1 (by decide)⟩
    · exact ⟨heldSets, gated_standsAt rfl, heldSets_dead, huntold 3 (by decide)⟩

end Document

end Reshape
