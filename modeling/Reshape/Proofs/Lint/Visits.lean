/-
# What linting visits

Linting visits a node, then the nodes right below it, and then what else was due (`Visits`).  So
every node of a document is visited, and since no place is within the place of another node that is
due at the same time (`Apart`), none is visited twice.  What is told of a node is told by the items
of its lists that name something unknown (`Document.told`), and a finding tells by its code and path
which item of which node it is about.

Main statement: `lint_visits`.
-/
import Reshape.Proofs.Json.Equality
import Reshape.Proofs.Lint.Targets
import Reshape.Proofs.WellFormed

namespace Reshape

/-! ## 1. Places apart from each other -/

/-- Neither of two places is within the other. -/
def Apart (p q : Location) : Prop := ¬p <+: q ∧ ¬q <+: p

namespace Apart

variable {p p' q q' : Location}

theorem of_ne (hl : p.length = q.length) (h : p ≠ q) : Apart p q :=
  ⟨fun hpq => h (hpq.eq_of_length hl), fun hqp => h (hqp.eq_of_length hl.symm).symm⟩

/-- Places within two places that are apart are apart. -/
theorem within (h : Apart p q) (hp : p <+: p') (hq : q <+: q') : Apart p' q' := by
  constructor
  · intro hpq
    rcases List.prefix_or_prefix_of_prefix (hp.trans hpq) hq with hc | hc
    · exact h.1 hc
    · exact h.2 hc
  · intro hqp
    rcases List.prefix_or_prefix_of_prefix hp (hq.trans hqp) with hc | hc
    · exact h.1 hc
    · exact h.2 hc

theorem index {i j : Nat} (h : i ≠ j) (p : Location) : Apart (p.index i) (p.index j) := by
  exact of_ne (by simp [Location.index]) fun he => h (Location.index_inj.mp he).2

end Apart

/-! ## 2. Visits -/

theorem pairwise_zipIdx {α : Type} (xs : List α) (i : Nat) :
    (xs.zipIdx i).Pairwise fun a b => a.2 ≠ b.2 := by
  rw [← List.pairwise_map, List.zipIdx_map_snd]
  exact List.nodup_range'

namespace Node

variable {place q : Location} {n m : Node} {due visited : List (Location × Node)}

/-- The first of the nodes that are due is visited.  Then the nodes right below it are due, before
all others. -/
inductive Visits : List (Location × Node) → List (Location × Node) → Prop
  | done : Visits [] []
  | visit {place : Location} {n : Node} {due visited : List (Location × Node)}
      (h : Visits (n.placed place ++ due) visited) :
      Visits ((place, n) :: due) ((place, n) :: visited)

theorem exists_visits_cons (n : Node) (place : Location)
    (h : ∃ visited, Visits due visited) : ∃ visited, Visits ((place, n) :: due) visited := by
  induction n using induct_children generalizing place due with
  | step n ih =>
    -- with all due, the nodes right below can be put in front one by one
    have hbelow : ∀ cs : List (Location × Node), (∀ c ∈ cs, c.2 ∈ n.children) →
        ∃ visited, Visits (cs ++ due) visited := by
      intro cs hcs
      induction cs with
      | nil => exact h
      | cons c cs ihcs =>
        exact ih c.2 (hcs c List.mem_cons_self) c.1
          (ihcs fun c' hc' => hcs c' (List.mem_cons_of_mem c hc'))
    obtain ⟨visited, hvisited⟩ := hbelow (n.placed place) fun c hc =>
      placed_nodes place n ▸ List.mem_map_of_mem hc
    exact ⟨_, .visit hvisited⟩

/-- Visiting comes to an end. -/
theorem exists_visits (due : List (Location × Node)) : ∃ visited, Visits due visited := by
  induction due with
  | nil => exact ⟨[], .done⟩
  | cons c due ih => exact exists_visits_cons c.2 c.1 ih

theorem standsAt_iff : m.StandsAt q place n ↔
    (q, m) = (place, n) ∨ ∃ c ∈ n.placed place, m.StandsAt q c.1 c.2 := by
  constructor
  · intro h
    cases h with
    | self => exact .inl rfl
    | child hk h => exact .inr ⟨_, hk, h⟩
  · rintro (h | ⟨c, hc, h⟩)
    · cases h
      exact .self
    · exact .child hc h

/-- **What stands in the tree of a node that is due is visited**, and nothing else. -/
theorem Visits.mem_iff (h : Visits due visited) :
    (q, m) ∈ visited ↔ ∃ c ∈ due, m.StandsAt q c.1 c.2 := by
  induction h with
  | done => simp
  | visit _ ih =>
    simp only [List.mem_cons, ih, List.mem_append, or_and_right, exists_or, exists_eq_left]
    rw [standsAt_iff, or_assoc]

/-- What is found of the nodes that are due is what is found of the nodes that are visited, each by
itself. -/
theorem Visits.findings {d : Document} (h : Visits due visited) :
    (due.flatMap fun c => d.nodeFindings c.1 c.2) =
      visited.flatMap fun c => d.ownFindings c.1 c.2 := by
  induction h with
  | done => rfl
  | visit _ ih =>
    rw [List.flatMap_cons, List.flatMap_cons, Document.nodeFindings_eq, List.append_assoc,
      ← List.flatMap_append, ih]

/-- The nodes right below a node stand within its place. -/
theorem prefix_of_mem_placed {c : Location × Node} (h : c ∈ n.placed place) :
    place <+: c.1 ∧ place ≠ c.1 := by
  have hbelow : ∀ {p : Location} {steps : Location}, steps ≠ [] → p <+: p ++ steps ∧
      p ≠ p ++ steps := fun hs => ⟨List.prefix_append _ _, by simpa using Ne.symm hs⟩
  rcases placed_cases h with ⟨k, -, -, hc⟩ | ⟨k, -, -, hc⟩
  · obtain ⟨j, hj⟩ := exists_index_of_mem_placedFrom hc
    rw [hj, Location.index, Location.key, List.append_assoc]
    exact hbelow (by simp)
  · obtain ⟨j, l, hl⟩ := exists_index_of_mem_placedInGroups hc
    rw [hl, Location.index, Location.index, Location.key, List.append_assoc, List.append_assoc]
    exact hbelow (by simp)

theorem StandsAt.prefix_place (h : m.StandsAt q place n) : place <+: q := by
  induction h with
  | self => exact List.prefix_refl _
  | child hk _ ih => exact (prefix_of_mem_placed hk).1.trans ih

theorem pairwise_apart_placedFrom (place : Location) (i : Nat) (ns : List Node) :
    (placedFrom place i ns).Pairwise fun a b => Apart a.1 b.1 := by
  rw [placedFrom, List.pairwise_map]
  exact (pairwise_zipIdx ns i).imp fun h => Apart.index h place

theorem pairwise_apart_placedInGroups (place : Location) (i : Nat) (gs : List (List Node)) :
    (placedInGroups place i gs).Pairwise fun a b => Apart a.1 b.1 := by
  rw [placedInGroups, List.pairwise_flatMap]
  refine ⟨fun e _ => pairwise_apart_placedFrom _ 0 e.1, (pairwise_zipIdx gs i).imp ?_⟩
  intro a b h x hx y hy
  obtain ⟨j, hj⟩ := exists_index_of_mem_placedFrom hx
  obtain ⟨l, hl⟩ := exists_index_of_mem_placedFrom hy
  rw [hj, hl]
  exact (Apart.index h place).within (List.prefix_append _ _) (List.prefix_append _ _)

/-- The nodes right below a node stand apart. -/
theorem pairwise_apart_placed (place : Location) (n : Node) :
    (n.placed place).Pairwise fun a b => Apart a.1 b.1 := by
  cases n with
  | value | mergeArrays => exact .nil
  | items | itemsAll => exact pairwise_apart_placedInGroups _ 0 _
  | _ => exact pairwise_apart_placedFrom _ 0 _

/-- **No place is visited twice**, if what is due stands apart. -/
theorem Visits.nodup (h : Visits due visited) (hd : due.Pairwise fun a b => Apart a.1 b.1) :
    (visited.map Prod.fst).Nodup := by
  induction h with
  | done => exact List.nodup_nil
  | @visit place n due visited h ih =>
    obtain ⟨hfirst, hrest⟩ := List.pairwise_cons.mp hd
    have hdue : (n.placed place ++ due).Pairwise fun a b => Apart a.1 b.1 :=
      List.pairwise_append.mpr ⟨pairwise_apart_placed place n, hrest, fun a ha b hb =>
        (hfirst b hb).within (prefix_of_mem_placed ha).1 (List.prefix_refl _)⟩
    refine List.nodup_cons.mpr ⟨fun hmem => ?_, ih hdue⟩
    obtain ⟨⟨q, m⟩, hvisited, rfl⟩ := List.mem_map.mp hmem
    obtain ⟨c, hc, hm⟩ := h.mem_iff.mp hvisited
    rcases List.mem_append.mp hc with hc | hc
    · obtain ⟨hwithin, hne⟩ := prefix_of_mem_placed hc
      exact hne (hwithin.eq_of_length_le hm.prefix_place.length_le)
    · exact (hfirst c hc).2 hm.prefix_place

end Node

/-! ## 3. What is told of a node -/

namespace Document

variable {d : Document} {f f' : Finding} {tell : Location → String → Finding}
  {known : String → Bool} {place list : Location} {names : List String}

/-- The findings about the names in a list at a place that are not known. -/
def unknownNames (tell : Location → String → Finding) (known : String → Bool) (list : Location)
    (names : List String) : List Finding :=
  (names.zipIdx.filter fun e => !known e.1).map fun e => tell (list.index e.2) e.1

/-- What is told of a node: the conditions that it refers to and that are not defined, a list of
conditions on a node that never looks at it, the transforms that are not always there, and the
limitations that are not defined. -/
def told (d : Document) (place : Location) (n : Node) : List Finding :=
  unknownNames .undefinedCondition (fun name => d.conditions.contains name)
      (place.key "conditions") ((n.info.conditions.getD []).map ConditionSpec.name) ++
    (if n.info.conditions.isSome ∧ n.kind? = some .itemsAll then
      [.ignoredConditions (place.key "conditions")] else []) ++
    unknownNames .unknownTransform TransformRegistry.builtin.contains
      (place.key "transform") ((n.info.transform.getD []).map TransformStep.name) ++
    unknownNames .undefinedLimitation d.limitations.contains
      (place.key "limits") (n.info.limits.map Limit.limitation)

theorem listFindings_eq {α : Type} (name : α → String) (items : List α) :
    listFindings (fun i x => if known (name x) then none else some (tell (list.index i) (name x)))
      items = unknownNames tell known list (items.map name) := by
  rw [listFindings, unknownNames, List.zipIdx_map, List.filter_map, List.map_map,
    ← List.filterMap_eq_map, List.filterMap_filter]
  refine List.filterMap_congr fun e _ => ?_
  cases h : known (name e.1) <;> simp [h]

/-- What is found of a node by itself is what is told of it. -/
theorem ownFindings_eq_told (d : Document) (place : Location) (n : Node) :
    d.ownFindings place n = d.told place n := by
  have hignored : (ignoredFinding? place n).toList =
      if n.info.conditions.isSome ∧ n.kind? = some .itemsAll then
        [.ignoredConditions (place.key "conditions")] else [] := by
    rw [ignoredFinding?]
    split <;> simp_all
  rw [ownFindings, transformFindings_eq, told, hignored, ← listFindings_eq ConditionSpec.name,
    ← listFindings_eq TransformStep.name, ← listFindings_eq Limit.limitation]
  rfl

/-! ## 4. Findings that are told apart -/

/-- Two findings are told apart by their codes and paths. -/
def ToldApart (f f' : Finding) : Prop := (f.code, f.path) ≠ (f'.code, f'.path)

theorem toldApart_of_codes {a b : String} (h : f.code = a) (h' : f'.code = b) (hne : a ≠ b) :
    ToldApart f f' :=
  fun he => hne (h.symm.trans ((congrArg Prod.fst he).trans h'))

theorem toldApart_of_path (h : f.path ≠ f'.path) : ToldApart f f' :=
  fun he => h (congrArg Prod.snd he)

/-- The findings about a list are told apart by their indexes. -/
theorem pairwise_unknownNames (hl : list.Plain)
    (htell : ∀ place name, (tell place name).path = place.text) :
    (unknownNames tell known list names).Pairwise ToldApart := by
  rw [unknownNames, List.pairwise_map]
  refine ((pairwise_zipIdx names 0).filter _).imp fun {a b} hne => ?_
  refine toldApart_of_path fun he => hne ?_
  rw [htell, htell] at he
  exact (Location.index_inj.mp (Location.text_injective (hl.index _) (hl.index _) he)).2

theorem code_of_mem_unknownNames {code : String}
    (htell : ∀ place name, (tell place name).code = code)
    (hf : f ∈ unknownNames tell known list names) : f.code = code := by
  obtain ⟨e, -, rfl⟩ := List.mem_map.mp hf
  exact htell _ _

/-- The findings about one node are told apart. -/
theorem pairwise_told (d : Document) (hp : place.Plain) (n : Node) :
    (d.told place n).Pairwise ToldApart := by
  rw [told]
  -- within a list the index tells, and between the lists the code does
  simp only [List.pairwise_append, List.mem_append, List.mem_ite_nil_right, List.mem_singleton]
  refine ⟨⟨⟨?_, ?_, ?_⟩, ?_, ?_⟩, ?_, ?_⟩
  · exact pairwise_unknownNames (plain_list hp (by simp)) fun _ _ => rfl
  · split <;> simp
  · rintro f hf f' ⟨-, rfl⟩
    have hc : f.code = "E003" := code_of_mem_unknownNames (fun _ _ => rfl) hf
    exact toldApart_of_codes (b := "W003") hc rfl (by decide)
  · exact pairwise_unknownNames (plain_list hp (by simp)) fun _ _ => rfl
  · intro f hf f' hf'
    have hc' : f'.code = "W001" := code_of_mem_unknownNames (fun _ _ => rfl) hf'
    rcases hf with hf | ⟨-, rfl⟩
    · have hc : f.code = "E003" := code_of_mem_unknownNames (fun _ _ => rfl) hf
      exact toldApart_of_codes hc hc' (by decide)
    · exact toldApart_of_codes (a := "W003") rfl hc' (by decide)
  · exact pairwise_unknownNames (plain_list hp (by simp)) fun _ _ => rfl
  · intro f hf f' hf'
    have hc' : f'.code = "W002" := code_of_mem_unknownNames (fun _ _ => rfl) hf'
    rcases hf with (hf | ⟨-, rfl⟩) | hf
    · have hc : f.code = "E003" := code_of_mem_unknownNames (fun _ _ => rfl) hf
      exact toldApart_of_codes hc hc' (by decide)
    · exact toldApart_of_codes (a := "W003") rfl hc' (by decide)
    · have hc : f.code = "W001" := code_of_mem_unknownNames (fun _ _ => rfl) hf
      exact toldApart_of_codes hc hc' (by decide)

/-- The node that a finding is about is told by the code and the path. -/
theorem place_eq_of_not_toldApart {q q' : Location} {m m' : Node} (hq : q.Plain) (hq' : q'.Plain)
    (hf : f ∈ d.ownFindings q m) (hf' : f' ∈ d.ownFindings q' m') (h : ¬ToldApart f f') :
    q = q' := by
  have hlist : ∀ {key : String} {i j : Nat}, key ∈ ["conditions", "transform", "limits"] →
      ((q.key key).index i).text = ((q'.key key).index j).text → q = q' := by
    intro key i j hkey he
    have hplace := Location.text_injective ((plain_list hq hkey).index i)
      ((plain_list hq' hkey).index j) he
    exact Location.key_inj.mp (Location.index_inj.mp hplace).1
  obtain ⟨hcode, hpath⟩ := Prod.mk.inj (not_not.mp h)
  rcases mem_ownFindings_iff.mp hf with ⟨i, s, -, -, rfl⟩ | ⟨-, -, rfl⟩ | ⟨i, s, -, -, rfl⟩ |
    ⟨i, s, -, -, rfl⟩ <;>
  rcases mem_ownFindings_iff.mp hf' with ⟨j, t, -, -, rfl⟩ | ⟨-, -, rfl⟩ | ⟨j, t, -, -, rfl⟩ |
    ⟨j, t, -, -, rfl⟩ <;>
  simp [Finding.code] at hcode
  · exact hlist (by simp) hpath
  · exact Location.key_inj.mp (Location.text_injective (plain_list hq (by simp))
      (plain_list hq' (by simp)) hpath)
  · exact hlist (by simp) hpath
  · exact hlist (by simp) hpath

/-! ## 5. Documents -/

variable {v : Json}

theorem loadDefs_eq_ok {v? : Option Json} {defs : Entries ConditionDef}
    (h : loadDefs v? = .ok defs) : defs = [] ∨ ∃ es loaded, v? = some (.obj es) ∧
      Entries.keys loaded = Entries.keys es ∧ defs = Entries.sortByKey loaded := by
  unfold loadDefs at h
  split at h
  · exact .inl (Except.ok.inj h).symm
  · exact .inl (Except.ok.inj h).symm
  · next es =>
    obtain ⟨loaded, hloaded, h⟩ := Result.bind_eq_ok.mp h
    refine .inr ⟨es, loaded, rfl, ?_, (Except.ok.inj h).symm⟩
    have hnames : List.Forall₂ (fun e l => e.1 = l.1) es loaded := by
      refine (Result.mapM_eq_ok.mp hloaded).imp fun e l hl => ?_
      obtain ⟨c, -, hl⟩ := Result.bind_eq_ok.mp hl
      cases hl
      rfl
    have hkeys : List.Forall₂ Eq (Entries.keys es) (Entries.keys loaded) :=
      List.forall₂_map_left_iff.mpr (List.forall₂_map_right_iff.mpr hnames)
    rw [List.forall₂_eq_eq_eq] at hkeys
    exact hkeys.symm
  · cases h

/-- The definitions of conditions are sorted by name, and no name is defined twice. -/
theorem pairwise_keys_conditions (hv : v.WellFormed) (hd : ofJson v = .ok d) :
    (Entries.keys d.conditions).Pairwise (· < ·) := by
  obtain ⟨es, w, rfl, hdefs, -, -⟩ := ofJson_eq_ok hd
  rcases loadDefs_eq_ok hdefs with hnone | ⟨fs, loaded, hget, hkeys, hsorted⟩
  · rw [hnone]
    exact .nil
  · have hentry : (Json.obj fs).WellFormed :=
      (Json.wellFormed_obj_iff.mp hv).2 _ (Entries.mem_of_get? hget)
    have hfs : Entries.Distinct fs := (Json.wellFormed_obj_iff.mp hentry).1
    have hnodup : (Entries.keys (Entries.sortByKey loaded)).Nodup :=
      Entries.distinct_sortByKey (by rw [Entries.Distinct, hkeys]; exact hfs)
    rw [hsorted]
    exact (Entries.pairwise_keys_sortByKey loaded).imp₂ (fun _ _ => Std.lt_of_le_of_ne)
      hnodup

/-- A definition for which no predicate can be built, with what is wrong with it. -/
def brokenDefinition? (e : String × ConditionDef) : Option (String × ConditionError) :=
  match ConditionClasses.builtin.build e.2 with
  | .ok _ => none
  | .error err => some (e.1, err)

theorem brokenDefinition?_eq_some_iff {e : String × ConditionDef} {b : String × ConditionError} :
    brokenDefinition? e = some b ↔
      b.1 = e.1 ∧ ConditionClasses.builtin.build e.2 = .error b.2 := by
  obtain ⟨name, err⟩ := b
  rw [brokenDefinition?]
  cases ConditionClasses.builtin.build e.2 with
  | ok p => simp
  | error err' => simp [eq_comm]

/-- The definitions for which no predicate can be built. -/
def brokenDefinitions (d : Document) : List (String × ConditionError) :=
  d.conditions.filterMap brokenDefinition?

theorem definitionFindings_eq (d : Document) :
    d.definitionFindings = d.brokenDefinitions.map fun e => .unusableCondition e.1 e.2 := by
  rw [definitionFindings, brokenDefinitions, List.map_filterMap]
  refine List.filterMap_congr fun e _ => ?_
  rw [definitionFinding?, brokenDefinition?]
  cases ConditionClasses.builtin.build e.2 <;> rfl

theorem mem_brokenDefinitions {name : String} {err : ConditionError} :
    (name, err) ∈ d.brokenDefinitions ↔ ∃ c, (name, c) ∈ d.conditions ∧
      ConditionClasses.builtin.build c = .error err := by
  rw [brokenDefinitions, List.mem_filterMap]
  simp only [brokenDefinition?_eq_some_iff]
  constructor
  · rintro ⟨⟨_, c⟩, hc, rfl, hb⟩
    exact ⟨c, hc, hb⟩
  · rintro ⟨c, hc, hb⟩
    exact ⟨(name, c), hc, rfl, hb⟩

theorem pairwise_brokenDefinitions (hv : v.WellFormed) (hd : ofJson v = .ok d) :
    d.brokenDefinitions.Pairwise fun a b => a.1 < b.1 := by
  rw [brokenDefinitions, List.pairwise_filterMap]
  refine (List.pairwise_map.mp (pairwise_keys_conditions hv hd)).imp fun hlt a ha b hb => ?_
  rw [(brokenDefinition?_eq_some_iff.mp ha).1, (brokenDefinition?_eq_some_iff.mp hb).1]
  exact hlt

/-- The findings about definitions are told apart by the names that are defined. -/
theorem pairwise_definitionFindings (hv : v.WellFormed) (hd : ofJson v = .ok d) :
    d.definitionFindings.Pairwise ToldApart := by
  rw [definitionFindings_eq, List.pairwise_map]
  refine (pairwise_brokenDefinitions hv hd).imp fun {a b} hlt => toldApart_of_path fun he => ?_
  have hname : a.1 = b.1 := by
    simpa [Finding.path, Finding.place?, Location.text, Step.text] using he
  exact absurd hname (Std.ne_of_lt hlt)

section Visited

variable {visited : List (Location × Node)}
  (h : Node.Visits (Node.placedFrom objectsPlace 0 d.objects) visited)

include h

theorem nodesFindings_of_visits : d.nodesFindings objectsPlace 0 d.objects =
    visited.flatMap fun c => d.told c.1 c.2 := by
  rw [nodesFindings_eq, h.findings]
  exact List.flatMap_congr fun c _ => ownFindings_eq_told d c.1 c.2

/-- The findings about nodes are told apart. -/
theorem pairwise_visited : (visited.flatMap fun c => d.told c.1 c.2).Pairwise ToldApart := by
  have hplain : ∀ c ∈ visited, c.1.Plain := fun c hc => StandsAt.plain (h.mem_iff.mp hc)
  have hplaces := h.nodup (Node.pairwise_apart_placedFrom objectsPlace 0 d.objects)
  rw [List.pairwise_flatMap]
  refine ⟨fun c hc => pairwise_told d (hplain c hc) c.2, ?_⟩
  refine (List.pairwise_map.mp hplaces).imp_of_mem fun {a b} ha hb hne f hf f' hf' => ?_
  by_contra hsame
  rw [← ownFindings_eq_told] at hf hf'
  exact hne (place_eq_of_not_toldApart (hplain a ha) (hplain b hb) hf hf' hsame)

end Visited

/-- **No two findings of a document have the same code and path.** -/
theorem pairwise_findings (hv : v.WellFormed) (hd : ofJson v = .ok d) :
    d.findings.Pairwise ToldApart := by
  obtain ⟨visited, h⟩ := Node.exists_visits (Node.placedFrom objectsPlace 0 d.objects)
  rw [findings, nodesFindings_of_visits h, List.pairwise_append]
  refine ⟨pairwise_definitionFindings hv hd, pairwise_visited h, fun f hf f' hf' he => ?_⟩
  obtain ⟨e, -, err, -, rfl⟩ := mem_definitionFindings.mp hf
  obtain ⟨c, -, hf'⟩ := List.mem_flatMap.mp hf'
  rw [← ownFindings_eq_told] at hf'
  have hcode := code_of_mem_ownFindings hf'
  rw [← (Prod.mk.inj he).1] at hcode
  simp [Finding.code] at hcode

/-- **Linting visits every node once and tells nothing twice.**  It tells of every definition for
which no predicate can be built, by name, and then of every node what there is to tell, in the order
in which the nodes are visited. -/
theorem lint_visits (hv : v.WellFormed) (hd : ofJson v = .ok d) :
    ∃ (broken : List (String × ConditionError)) (visited : List (Location × Node)),
      v.lint = broken.map (fun e => .unusableCondition e.1 e.2) ++
        visited.flatMap (fun c => d.told c.1 c.2) ∧
      broken.Pairwise (fun a b => a.1 < b.1) ∧
      (∀ name err, (name, err) ∈ broken ↔ ∃ c, Entries.get? name d.conditions = some c ∧
        ConditionClasses.builtin.build c = .error err) ∧
      Node.Visits (Node.placedFrom objectsPlace 0 d.objects) visited ∧
      (∀ n ∈ d.objects, ∀ m : Node, m.Within n → ∃ q, (q, m) ∈ visited) ∧
      (∀ q m, (q, m) ∈ visited ↔ d.StandsAt q m) ∧
      (visited.map fun c => c.1.text).Nodup ∧
      (v.lint.map fun f => (f.code, f.path)).Nodup := by
  obtain ⟨visited, h⟩ := Node.exists_visits (Node.placedFrom objectsPlace 0 d.objects)
  have hdistinct : Entries.Distinct d.conditions :=
    (pairwise_keys_conditions hv hd).imp Std.ne_of_lt
  refine ⟨d.brokenDefinitions, visited, ?_, pairwise_brokenDefinitions hv hd, fun name err => ?_,
    h, ?_, fun q m => h.mem_iff, ?_, ?_⟩
  · rw [Json.lint_eq_findings hd, findings, definitionFindings_eq, nodesFindings_of_visits h]
  · simp only [mem_brokenDefinitions, Entries.get?_eq_some_iff hdistinct]
  · intro n hn m hm
    rw [← Node.placedFrom_nodes objectsPlace 0 d.objects] at hn
    obtain ⟨c, hc, rfl⟩ := List.mem_map.mp hn
    obtain ⟨q, hq⟩ := Node.exists_standsAt hm c.1
    exact ⟨q, h.mem_iff.mpr ⟨c, hc, hq⟩⟩
  · have hplaces := h.nodup (Node.pairwise_apart_placedFrom objectsPlace 0 d.objects)
    refine List.pairwise_map.mpr ((List.pairwise_map.mp hplaces).imp_of_mem ?_)
    intro a b ha hb hne he
    exact hne (Location.text_injective (StandsAt.plain (h.mem_iff.mp ha))
      (StandsAt.plain (h.mem_iff.mp hb)) he)
  · rw [Json.lint_eq_findings hd]
    exact List.pairwise_map.mpr (pairwise_findings hv hd)

/-- A document with nodes below nodes.  Something is wrong with one of its definitions, with the
conditions of a node with groups and with the transform of a node below that. -/
def survey : Json :=
  .obj [("conditions", .obj [("weekday", .obj [("class", .str "Calendar")]),
      ("named", .obj [("class", .str "Present")])]),
    ("objects", .arr [.obj [("name", .str "answers"), ("path", .str "answers"),
      ("items_all", .arr [.arr [.obj [("name", .str "text"), ("path", .str "text"),
        ("transform", .str "shout")]]]),
      ("conditions", .arr [.obj [("name", .str "named")], .obj [("name", .str "due")]])]])]

theorem wellFormed_survey : survey.WellFormed := by
  simp [survey, Json.wellFormed_obj_iff, Json.wellFormed_arr_iff, Entries.Distinct, Entries.keys,
    Json.WellFormed.str]

theorem lint_visits_survey :
    survey.WellFormed ∧
    (survey.lint.map fun f => (f.code, f.path)) =
      [("E004", "/conditions/weekday"), ("E003", "/objects/0/conditions/1"),
        ("W003", "/objects/0/conditions"), ("W001", "/objects/0/items_all/0/0/transform/0")] ∧
    (survey.lint.map fun f => (f.code, f.path)).Nodup ∧
    ∃ d, ofJson survey = .ok d ∧ ∃ visited : List (Location × Node),
      Node.Visits (Node.placedFrom objectsPlace 0 d.objects) visited ∧
      (∀ n ∈ d.objects, ∀ m : Node, m.Within n → ∃ q, (q, m) ∈ visited) ∧
      (visited.map fun c => c.1.text).Nodup := by
  obtain ⟨d, hd⟩ : ∃ d, ofJson survey = .ok d := ⟨_, rfl⟩
  obtain ⟨-, visited, -, -, -, hvisits, hwithin, -, hplaces, hnodup⟩ :=
    lint_visits wellFormed_survey hd
  exact ⟨wellFormed_survey, rfl, hnodup, d, hd, visited, hvisits, hwithin, hplaces⟩

end Document

end Reshape
