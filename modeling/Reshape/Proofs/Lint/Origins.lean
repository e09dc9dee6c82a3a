/-
# Where nodes come from

A node of a loaded document has been loaded from a value in it, and that value stands at the place
at which the node stands in the tree of nodes (`StandsAt.loadedAt`): no list of nodes or groups is
reordered or thinned out on the way.  The same is true of the references to conditions in the list
of a node (`loadConditions_eq_ok`).  It is not true of limits, since null among them is passed over:
the limits are what is left of the list (`loadLimits_eq_ok`).
-/
import Reshape.Proofs.Lint.Places
import Reshape.Proofs.Location
import Reshape.Proofs.Schema.Grammar

namespace Reshape

/-! ## 1. What a node is loaded from -/

namespace Node

open Grammar (nodesUnder_eq groupsUnder_eq exists_marks_of_load)

variable {place : Location} {unnamed : Bool} {v w root : Json} {n : Node} {es : Entries Json}

/-- A node is loaded from entries: what it says beside its kind, and what stands under the key of
its kind. -/
structure LoadedFrom (place : Location) (es : Entries Json) (n : Node) : Prop where
  info : ∃ name, loadInfo place name es = .ok n.info
  nodes : ∀ k, n.kind? = some k → k.body = .nodes →
    ∃ unnamed, nodesUnder (place.key k.key) unnamed k.key es = .ok n.children
  groups : ∀ k, n.kind? = some k → k.body = .groups →
    groupsUnder (place.key k.key) k.key es = .ok n.groups

theorem LoadedFrom.ofNodes {name : String} {k : NodeKind}
    (hinfo : loadInfo place name es = .ok n.info) (hk : n.kind? = some k) (hb : k.body = .nodes)
    (hnodes : nodesUnder (place.key k.key) unnamed k.key es = .ok n.children) :
    LoadedFrom place es n where
  info := ⟨name, hinfo⟩
  nodes k' hk' _ := by
    cases hk.symm.trans hk'
    exact ⟨unnamed, hnodes⟩
  groups k' hk' hb' := by
    cases hk.symm.trans hk'
    cases hb.symm.trans hb'

theorem LoadedFrom.ofGroups {name : String} {k : NodeKind}
    (hinfo : loadInfo place name es = .ok n.info) (hk : n.kind? = some k) (hb : k.body = .groups)
    (hgroups : groupsUnder (place.key k.key) k.key es = .ok n.groups) :
    LoadedFrom place es n where
  info := ⟨name, hinfo⟩
  nodes k' hk' hb' := by
    cases hk.symm.trans hk'
    cases hb.symm.trans hb'
  groups k' hk' _ := by
    cases hk.symm.trans hk'
    exact hgroups

open LoadedFrom (ofNodes ofGroups) in
/-- Loading is the same for all kinds of nodes, but for the path, what is excluded, and the paths
of nodes that merge some. -/
theorem load_eq_ok (h : load place unnamed v = .ok n) :
    ∃ es, v = .obj es ∧ LoadedFrom place es n := by
  cases v with
  | obj es =>
    refine ⟨es, rfl, ?_⟩
    obtain ⟨kind?, hm⟩ := exists_marks_of_load ⟨n, h⟩
    rw [load, hm] at h
    obtain ⟨name, -, h⟩ := Result.bind_eq_ok.mp h
    cases kind? with
    | none =>
      simp only [Option.toList_none, pure_bind] at h
      obtain ⟨path, -, h⟩ := Result.bind_eq_ok.mp h
      obtain ⟨info, hinfo, h⟩ := Result.bind_eq_ok.mp h
      cases h
      exact ⟨⟨name, hinfo⟩, by simp [kind?], by simp [kind?]⟩
    | some k =>
      simp only [Option.toList_some, pure_bind] at h
      obtain ⟨path, -, h⟩ := Result.bind_eq_ok.mp h
      cases k with
      | attributes | hash | hashArray =>
        obtain ⟨p, -, h⟩ := Result.bind_eq_ok.mp h
        obtain ⟨fields, hfields, h⟩ := Result.bind_eq_ok.mp h
        obtain ⟨info, hinfo, h⟩ := Result.bind_eq_ok.mp h
        cases h
        exact ofNodes hinfo rfl rfl hfields
      | nested | array =>
        obtain ⟨fields, hfields, h⟩ := Result.bind_eq_ok.mp h
        obtain ⟨info, hinfo, h⟩ := Result.bind_eq_ok.mp h
        cases h
        exact ofNodes hinfo rfl rfl hfields
      | items =>
        obtain ⟨p, -, h⟩ := Result.bind_eq_ok.mp h
        obtain ⟨groups, hgroups, h⟩ := Result.bind_eq_ok.mp h
        obtain ⟨info, hinfo, h⟩ := Result.bind_eq_ok.mp h
        cases h
        exact ofGroups hinfo rfl rfl hgroups
      | itemsAll =>
        obtain ⟨p, -, h⟩ := Result.bind_eq_ok.mp h
        obtain ⟨groups, hgroups, h⟩ := Result.bind_eq_ok.mp h
        obtain ⟨exclude, -, h⟩ := Result.bind_eq_ok.mp h
        obtain ⟨info, hinfo, h⟩ := Result.bind_eq_ok.mp h
        cases h
        exact ofGroups hinfo rfl rfl hgroups
      | mergeArrays =>
        obtain ⟨paths, -, h⟩ := Result.bind_eq_ok.mp h
        obtain ⟨info, hinfo, h⟩ := Result.bind_eq_ok.mp h
        cases h
        exact ⟨⟨name, hinfo⟩, by simp [Node.kind?, NodeKind.body],
          by simp [Node.kind?, NodeKind.body]⟩
  | _ => cases h

/-! ## 2. Places in a document -/

/-- A value stands at a place of a document and loads there as a node. -/
def LoadedAt (root : Json) (place : Location) (n : Node) : Prop :=
  ∃ unnamed v, place.follow? root = some v ∧ load place unnamed v = .ok n

/-- The nodes right below a node stand under the key of its kind. -/
theorem placed_cases {c : Location × Node} (h : c ∈ n.placed place) :
    (∃ k, n.kind? = some k ∧ k.body = .nodes ∧ c ∈ placedFrom (place.key k.key) 0 n.children) ∨
    ∃ k, n.kind? = some k ∧ k.body = .groups ∧
      c ∈ placedInGroups (place.key k.key) 0 n.groups := by
  cases n with
  | value | mergeArrays => cases h
  | items | itemsAll => exact .inr ⟨_, rfl, rfl, h⟩
  | _ => exact .inl ⟨_, rfl, rfl, h⟩

/-- Nodes of a list are loaded from its items, in order. -/
theorem loadedAt_of_nodesFrom {vs rest : List Json} {ns : List Node}
    (hlist : place.follow? root = some (.arr vs)) (i : Nat) (hrest : vs.drop i = rest)
    (h : nodesFrom place unnamed i rest = .ok ns) {c : Location × Node}
    (hc : c ∈ placedFrom place i ns) : LoadedAt root c.1 c.2 := by
  induction rest generalizing i ns with
  | nil =>
    cases h
    cases hc
  | cons w rest ih =>
    obtain ⟨n, hn, h⟩ := Result.bind_eq_ok.mp h
    obtain ⟨ns', hns, h⟩ := Result.bind_eq_ok.mp h
    cases h
    have hw : vs[i]? = some w := by rw [← List.head?_drop, hrest]; rfl
    rcases List.mem_cons.mp hc with rfl | hc
    · exact ⟨unnamed, w, Location.follow?_index_of_getElem? hlist hw, hn⟩
    · exact ih (i + 1) (by rw [← List.tail_drop, hrest]; rfl) hns hc

theorem loadedAt_of_loadNodes {ns : List Node} (hv : place.follow? root = some v)
    (h : loadNodes place unnamed v = .ok ns) {c : Location × Node}
    (hc : c ∈ placedFrom place 0 ns) : LoadedAt root c.1 c.2 := by
  cases v with
  | arr vs => exact loadedAt_of_nodesFrom hv 0 rfl h hc
  | _ => cases h

theorem loadedAt_of_groupsFrom {vs rest : List Json} {gs : List (List Node)}
    (hlist : place.follow? root = some (.arr vs)) (i : Nat) (hrest : vs.drop i = rest)
    (h : groupsFrom place i rest = .ok gs) {c : Location × Node}
    (hc : c ∈ placedInGroups place i gs) : LoadedAt root c.1 c.2 := by
  induction rest generalizing i gs with
  | nil =>
    cases h
    cases hc
  | cons w rest ih =>
    obtain ⟨g, hg, h⟩ := Result.bind_eq_ok.mp h
    obtain ⟨gs', hgs, h⟩ := Result.bind_eq_ok.mp h
    cases h
    have hw : vs[i]? = some w := by rw [← List.head?_drop, hrest]; rfl
    rcases List.mem_append.mp hc with hc | hc
    · exact loadedAt_of_loadNodes (Location.follow?_index_of_getElem? hlist hw) hg hc
    · exact ih (i + 1) (by rw [← List.tail_drop, hrest]; rfl) hgs hc

theorem loadedAt_of_loadGroups {gs : List (List Node)} (hv : place.follow? root = some v)
    (h : loadGroups place v = .ok gs) {c : Location × Node}
    (hc : c ∈ placedInGroups place 0 gs) : LoadedAt root c.1 c.2 := by
  cases v with
  | arr vs => exact loadedAt_of_groupsFrom hv 0 rfl h hc
  | _ => cases h

/-- **The nodes right below a node are loaded from where they stand.** -/
theorem LoadedAt.placed (h : LoadedAt root place n) {c : Location × Node}
    (hc : c ∈ n.placed place) : LoadedAt root c.1 c.2 := by
  obtain ⟨unnamed, v, hv, hn⟩ := h
  obtain ⟨es, rfl, hfrom⟩ := load_eq_ok hn
  rcases placed_cases hc with ⟨k, hk, hb, hc⟩ | ⟨k, hk, hb, hc⟩
  · obtain ⟨unnamed', hnodes⟩ := hfrom.nodes k hk hb
    rw [nodesUnder_eq] at hnodes
    cases hget : Entries.get? k.key es with
    | none =>
      rw [hget] at hnodes
      rw [← Except.ok.inj hnodes] at hc
      cases hc
    | some w =>
      rw [hget] at hnodes
      exact loadedAt_of_loadNodes (Location.follow?_key_of_get? hv hget) hnodes hc
  · have hgroups := hfrom.groups k hk hb
    rw [groupsUnder_eq] at hgroups
    cases hget : Entries.get? k.key es with
    | none =>
      rw [hget] at hgroups
      rw [← Except.ok.inj hgroups] at hc
      cases hc
    | some w =>
      rw [hget] at hgroups
      exact loadedAt_of_loadGroups (Location.follow?_key_of_get? hv hget) hgroups hc

theorem StandsAt.loadedAt {q : Location} {m : Node} (h : m.StandsAt q place n)
    (hn : LoadedAt root place n) : LoadedAt root q m := by
  induction h with
  | self => exact hn
  | child hk _ ih => exact ih (hn.placed hk)

end Node

namespace Document

variable {v : Json} {d : Document}

theorem ofJson_eq_ok (hd : ofJson v = .ok d) : ∃ es w, v = .obj es ∧
    loadDefs (Entries.get? "conditions" es) = .ok d.conditions ∧
    Entries.get? "objects" es = some w ∧ Node.loadNodes objectsPlace false w = .ok d.objects := by
  cases v with
  | obj es =>
    rw [ofJson] at hd
    obtain ⟨conditions, hconditions, hd⟩ := Result.bind_eq_ok.mp hd
    obtain ⟨limitations, -, hd⟩ := Result.bind_eq_ok.mp hd
    dsimp only at hd
    split at hd
    · cases hd
    · cases hd
    · next w _ hw =>
      obtain ⟨objects, hobjects, hd⟩ := Result.bind_eq_ok.mp hd
      cases hd
      exact ⟨es, w, rfl, hconditions, hw, hobjects⟩
  | _ => cases hd

/-- **Every node of a document is loaded from what stands at its place.** -/
theorem StandsAt.loadedAt (hd : ofJson v = .ok d) {q : Location} {m : Node} (h : d.StandsAt q m) :
    m.LoadedAt v q := by
  obtain ⟨es, w, rfl, -, hw, hobjects⟩ := ofJson_eq_ok hd
  obtain ⟨c, hc, hm⟩ := h
  have hplace : objectsPlace.follow? (.obj es) = some w :=
    Location.follow?_key_of_get? (Location.follow?_nil _) hw
  exact hm.loadedAt (Node.loadedAt_of_loadNodes hplace hobjects hc)

end Document

/-! ## 3. The lists of a node -/

namespace Node

variable {place : Location} {v : Json} {v? : Option Json} {es : Entries Json}

theorem loadInfo_eq_ok {name : String} {info : NodeInfo} (h : loadInfo place name es = .ok info) :
    loadConditions place (Entries.get? "conditions" es) = .ok info.conditions ∧
      loadLimits place (Entries.get? "limits" es) = .ok info.limits := by
  obtain ⟨transform, -, h⟩ := Result.bind_eq_ok.mp h
  obtain ⟨conditions, hconditions, h⟩ := Result.bind_eq_ok.mp h
  obtain ⟨limits, hlimits, h⟩ := Result.bind_eq_ok.mp h
  cases h
  exact ⟨hconditions, hlimits⟩

theorem loadSpec_eq_ok {spec : ConditionSpec} (h : loadSpec place v = .ok spec) :
    ∃ es, v = .obj es ∧ Entries.get? "name" es = some (.str spec.name) := by
  cases v with
  | obj es =>
    rw [loadSpec] at h
    split at h
    · next name hname =>
      obtain ⟨field, -, h⟩ := Result.bind_eq_ok.mp h
      cases h
      exact ⟨es, rfl, hname⟩
    · cases h
  | _ => cases h

/-- The references to conditions are loaded from the items of a list, one from each. -/
theorem loadConditions_eq_ok {specs : List ConditionSpec}
    (h : loadConditions place v? = .ok (some specs)) : ∃ vs, v? = some (.arr vs) ∧
      List.Forall₂ (fun v spec => loadSpec place v = .ok spec) vs specs := by
  unfold loadConditions at h
  split at h
  · cases h
  · cases h
  · next vs =>
    obtain ⟨specs', hspecs, h⟩ := Result.map_eq_ok.mp h
    cases h
    exact ⟨vs, rfl, Result.mapM_eq_ok.mp hspecs⟩
  · cases h

/-- The limit that a value is. -/
def limit? : Json → Option Limit
  | .obj [(key, .str limitation)] => some ⟨key, limitation⟩
  | _ => none

theorem limit?_eq_some_iff {limit : Limit} :
    limit? v = some limit ↔ v = .obj [(limit.key, .str limit.limitation)] := by
  constructor
  · intro h
    unfold limit? at h
    split at h
    · cases h
      rfl
    · cases h
  · rintro rfl
    rfl

theorem loadLimit_eq_ok {found : Option Limit} (h : loadLimit place v = .ok found) :
    limit? v = found ∧ (limit? v = none ↔ v = .null) := by
  unfold loadLimit at h
  split at h <;> cases h <;> simp [limit?]

/-- The limits are loaded from the items of a list, less the nulls among them. -/
theorem loadLimits_eq_ok {limits : List Limit} (h : loadLimits place v? = .ok limits)
    (hne : limits ≠ []) : ∃ vs, v? = some (.arr vs) ∧ limits = vs.filterMap limit? ∧
      ∀ v ∈ vs, limit? v = none ↔ v = .null := by
  unfold loadLimits at h
  split at h
  · cases h
    exact absurd rfl hne
  · cases h
    exact absurd rfl hne
  · next vs =>
    obtain ⟨found, hfound, h⟩ := Result.bind_eq_ok.mp h
    cases h
    have hitems := (Result.mapM_eq_ok.mp hfound).imp fun v found h => loadLimit_eq_ok h
    obtain ⟨hnull, hfound⟩ := (List.forall₂_and_left _ _).mp (hitems.imp fun _ _ h => h.symm)
    have hmap : List.Forall₂ Eq (vs.map limit?) found := List.forall₂_map_left_iff.mpr hfound
    rw [List.forall₂_eq_eq_eq] at hmap
    subst hmap
    exact ⟨vs, rfl, List.filterMap_map, hnull⟩
  · cases h

end Node

end Reshape
