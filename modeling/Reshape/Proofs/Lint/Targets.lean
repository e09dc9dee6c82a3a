/-
# Where findings point

A finding about an item of a list of a node is told with a place: the place of the node, the key of
the list and a number.  For a reference to a condition this is the place of the reference in the
document, so the path that is told leads to the reference (`PointsAt`).  For a limit the number is
that of the limit among the limits that are loaded, and null items of the list are none of these.
So the path leads to the limit exactly if there is no null in front of it in its list.

Main statement: `lint_pointsAt`.
-/
import Reshape.Proofs.Lint.Origins
import Reshape.Proofs.Lint.Soundness

namespace Reshape

open Reshape.Path (ofString outcome)

/-! ## 1. Places of nodes -/

theorem NodeKind.plainKey (k : NodeKind) : PlainKey k.key := by
  cases k <;> exact ⟨by decide, by decide, by decide, by decide⟩

/-- The lists of a node in which linting looks names up. -/
theorem plain_list {place : Location} (hp : place.Plain) {key : String}
    (h : key ∈ ["conditions", "transform", "limits"]) : (place.key key).Plain := by
  refine hp.key ?_
  simp only [List.mem_cons, List.not_mem_nil, or_false] at h
  rcases h with rfl | rfl | rfl <;> exact ⟨by decide, by decide, by decide, by decide⟩

namespace Node

variable {place : Location} {n : Node} {c : Location × Node}

theorem exists_index_of_mem_placedFrom {i : Nat} {ns : List Node}
    (h : c ∈ placedFrom place i ns) : ∃ j, c.1 = place.index j := by
  obtain ⟨e, -, rfl⟩ := List.mem_map.mp h
  exact ⟨e.2, rfl⟩

theorem exists_index_of_mem_placedInGroups {i : Nat} {gs : List (List Node)}
    (h : c ∈ placedInGroups place i gs) : ∃ j l, c.1 = (place.index j).index l := by
  obtain ⟨e, -, hc⟩ := List.mem_flatMap.mp h
  obtain ⟨l, hl⟩ := exists_index_of_mem_placedFrom hc
  exact ⟨e.2, l, hl⟩

theorem plain_of_mem_placed (hp : place.Plain) (h : c ∈ n.placed place) : c.1.Plain := by
  rcases placed_cases h with ⟨k, -, -, hc⟩ | ⟨k, -, -, hc⟩
  · obtain ⟨j, hj⟩ := exists_index_of_mem_placedFrom hc
    rw [hj]
    exact (hp.key k.plainKey).index j
  · obtain ⟨j, l, hl⟩ := exists_index_of_mem_placedInGroups hc
    rw [hl]
    exact ((hp.key k.plainKey).index j).index l

theorem StandsAt.plain {q : Location} {m : Node} (h : m.StandsAt q place n) (hp : place.Plain) :
    q.Plain := by
  induction h with
  | self => exact hp
  | child hk _ ih => exact ih (plain_of_mem_placed hp hk)

end Node

theorem Document.plain_objectsPlace : objectsPlace.Plain := by
  intro s hs
  rw [List.mem_singleton.mp hs]
  exact ⟨by decide, by decide, by decide, by decide⟩

theorem Document.StandsAt.plain {d : Document} {q : Location} {m : Node} (h : d.StandsAt q m) :
    q.Plain := by
  obtain ⟨c, hc, hm⟩ := h
  obtain ⟨j, hj⟩ := Node.exists_index_of_mem_placedFrom hc
  exact hm.plain (hj ▸ plain_objectsPlace.index j)

/-! ## 2. Items of lists -/

/-- A written path points at the item of some number in the list at a place of a document: it is
what the place of the item is written as, and leads to the item. -/
structure PointsAt (v : Json) (path : String) (list : Location) (i : Nat) (w : Json) : Prop where
  written : path = (list.index i).text
  stands : (list.index i).follow? v = some w
  leads : (ofString path).outcome v = .ok (some w)

section PointsAt

variable {v w : Json} {list : Location} {i j : Nat}

theorem pointsAt_text (hl : list.Plain) (h : (list.index i).follow? v = some w) (hw : w ≠ .null) :
    PointsAt v (list.index i).text list i w :=
  ⟨rfl, h, Location.outcome_text (hl.index i) h hw⟩

/-- A path that is written from one number points at no item of another. -/
theorem pointsAt_text_iff (hl : list.Plain) (h : (list.index j).follow? v = some w)
    (hw : w ≠ .null) : PointsAt v (list.index i).text list j w ↔ i = j := by
  constructor
  · intro hp
    exact (Location.index_inj.mp
      (Location.text_injective (hl.index i) (hl.index j) hp.written)).2
  · rintro rfl
    exact pointsAt_text hl h hw

end PointsAt

/-- An item that is left of a list comes from an item with as many others in front of it that are
left. -/
theorem exists_split_of_filterMap {α β : Type} {g : α → Option β} {xs : List α} {i : Nat} {y : β}
    (h : (xs.filterMap g)[i]? = some y) : ∃ before x after, xs = before ++ x :: after ∧
      g x = some y ∧ before.countP (fun x => (g x).isSome) = i := by
  obtain ⟨hi, hy⟩ := List.getElem?_eq_some_iff.mp h
  have hsplit : xs.filterMap g =
      (xs.filterMap g).take i ++ y :: (xs.filterMap g).drop (i + 1) := by
    rw [← hy, ← List.drop_eq_getElem_cons hi, List.take_append_drop]
  obtain ⟨front, back, hxs, hfront, hback⟩ := List.filterMap_eq_append_iff.mp hsplit
  obtain ⟨gone, x, after, rfl, hgone, hx, -⟩ := List.filterMap_eq_cons_iff.mp hback
  refine ⟨front ++ gone, x, after, by rw [hxs, List.append_assoc], hx, ?_⟩
  rw [← List.length_filterMap_eq_countP, List.filterMap_append,
    List.filterMap_eq_nil_iff.mpr hgone, List.append_nil, hfront, List.length_take,
    Nat.min_eq_left (Nat.le_of_lt hi)]

namespace Node

variable {q : Location} {m : Node} {v : Json} {i : Nat}

/-- A reference of a node stands where the node does, under its own number. -/
theorem LoadedAt.reference (h : LoadedAt v q m) {specs : List ConditionSpec}
    (hs : m.info.conditions = some specs) {spec : ConditionSpec} (hi : specs[i]? = some spec) :
    ∃ es, ((q.key "conditions").index i).follow? v = some (.obj es) ∧
      Entries.get? "name" es = some (.str spec.name) := by
  obtain ⟨unnamed, v', hv, hn⟩ := h
  obtain ⟨es, rfl, hfrom⟩ := load_eq_ok hn
  obtain ⟨name, hinfo⟩ := hfrom.info
  obtain ⟨hconditions, -⟩ := loadInfo_eq_ok hinfo
  rw [hs] at hconditions
  obtain ⟨vs, hget, hspecs⟩ := loadConditions_eq_ok hconditions
  obtain ⟨hi', rfl⟩ := List.getElem?_eq_some_iff.mp hi
  obtain ⟨hlength, hspecs⟩ := List.forall₂_iff_get.mp hspecs
  obtain ⟨entry, hentry, hname⟩ := loadSpec_eq_ok (hspecs i (hlength ▸ hi') hi')
  have hlist := Location.follow?_key_of_get? hv hget
  refine ⟨entry, Location.follow?_index_of_getElem? hlist ?_, hname⟩
  rw [← hentry]
  exact List.getElem?_eq_getElem _

/-- A limit of a node is an item of its list, behind as many items that are not null as there are
limits in front of it. -/
theorem LoadedAt.limit (h : LoadedAt v q m) {limit : Limit} (hi : m.info.limits[i]? = some limit) :
    ∃ before after, (q.key "limits").follow? v =
        some (.arr (before ++ .obj [(limit.key, .str limit.limitation)] :: after)) ∧
      before.countP (fun w => w ≠ .null) = i := by
  obtain ⟨unnamed, v', hv, hn⟩ := h
  obtain ⟨es, rfl, hfrom⟩ := load_eq_ok hn
  obtain ⟨name, hinfo⟩ := hfrom.info
  obtain ⟨-, hlimits⟩ := loadInfo_eq_ok hinfo
  have hne : m.info.limits ≠ [] := List.ne_nil_of_mem (List.mem_of_getElem? hi)
  obtain ⟨vs, hget, hvs, hnull⟩ := loadLimits_eq_ok hlimits hne
  rw [hvs] at hi
  obtain ⟨before, w, after, rfl, hw, hcount⟩ := exists_split_of_filterMap hi
  rw [limit?_eq_some_iff.mp hw] at hget hnull
  refine ⟨before, after, Location.follow?_key_of_get? hv hget, ?_⟩
  rw [← hcount]
  refine List.countP_congr fun w hmem => ?_
  rw [decide_eq_true_iff, ← Option.ne_none_iff_isSome]
  exact not_congr (hnull w (List.mem_append_left _ hmem)).symm

end Node

/-! ## 3. Findings -/

namespace Document

variable {v : Json} {d : Document} {f : Finding}

/-- **Where findings point.**  A finding about a condition points at the reference in the document
that names what is not defined.  A finding about a limitation points at the limit that names it
exactly if there is no null in front of the limit in its list: nulls are not counted. -/
theorem lint_pointsAt (hd : ofJson v = .ok d) :
    (∀ f ∈ v.lint, f.code = "E003" → ∃ q m i es name,
      d.StandsAt q m ∧ m.LoadedAt v q ∧
      f = .undefinedCondition ((q.key "conditions").index i) name ∧
      PointsAt v f.path (q.key "conditions") i (.obj es) ∧
      Entries.get? "name" es = some (.str name) ∧ d.conditions.contains name = false) ∧
    (∀ f ∈ v.lint, f.code = "W002" → ∃ q m before key name after,
      d.StandsAt q m ∧ m.LoadedAt v q ∧
      (q.key "limits").follow? v = some (.arr (before ++ .obj [(key, .str name)] :: after)) ∧
      d.limitations.contains name = false ∧
      f = .undefinedLimitation ((q.key "limits").index (before.countP fun w => w ≠ .null)) name ∧
      (PointsAt v f.path (q.key "limits") before.length (.obj [(key, .str name)]) ↔
        .null ∉ before)) := by
  rw [Json.lint_eq_findings hd]
  constructor
  · intro f hf hc
    obtain ⟨q, m, specs, i, spec, hm, hs, hi, hspec, rfl⟩ :=
      mem_findings_undefinedCondition.mp ⟨hf, hc⟩
    obtain ⟨es, hes, hname⟩ := (hm.loadedAt hd).reference hs hi
    exact ⟨q, m, i, es, spec.name, hm, hm.loadedAt hd, rfl,
      pointsAt_text (plain_list hm.plain (by simp)) hes Json.noConfusion, hname, hspec⟩
  · intro f hf hc
    obtain ⟨q, m, i, limit, hm, hi, hlimit, rfl⟩ := mem_findings_undefinedLimitation.mp ⟨hf, hc⟩
    obtain ⟨before, after, hlist, hcount⟩ := (hm.loadedAt hd).limit hi
    have hitem := Location.follow?_index_of_getElem? (i := before.length)
      (w := .obj [(limit.key, .str limit.limitation)]) hlist (by simp)
    refine ⟨q, m, before, limit.key, limit.limitation, after, hm, hm.loadedAt hd, hlist, hlimit,
      by rw [hcount], ?_⟩
    have hall : before.countP (fun w => w ≠ .null) = before.length ↔ .null ∉ before := by
      rw [List.countP_eq_length]
      simp only [decide_eq_true_iff]
      exact ⟨fun h hn => h _ hn rfl, fun h w hw hn => h (hn ▸ hw)⟩
    rw [← hall, hcount]
    exact pointsAt_text_iff (plain_list hm.plain (by simp)) hitem Json.noConfusion

/-- A document with a group of one node, which refers to a condition that is not defined and has
some limits. -/
def offer (limits : List Json) : Json :=
  .obj [("objects", .arr [.obj [("name", .str "offer"), ("path", .str "offers"),
    ("items", .arr [.arr [.obj [("name", .str "price"), ("path", .str "price"),
      ("conditions", .arr [.obj [("name", .str "priced")]]), ("limits", .arr limits)]]])]])]

/-- The place of the node in the group. -/
def pricePlace : Location := (((objectsPlace.index 0).key "items").index 0).index 0

/-- A limit on a currency, of a kind that is not defined. -/
def currency : Json := .obj [("currency", .str "kind")]

theorem lint_offer_pointsAt :
    (∃ d, ofJson (offer [currency]) = .ok d) ∧
    (∃ f ∈ (offer [currency]).lint, f.code = "E003" ∧
      ∃ list i es name, PointsAt (offer [currency]) f.path list i (.obj es) ∧
        Entries.get? "name" es = some (.str name)) ∧
    ∃ f ∈ (offer [currency]).lint, f.code = "W002" ∧
      ∃ list i key name, PointsAt (offer [currency]) f.path list i (.obj [(key, .str name)]) := by
  obtain ⟨d, hd⟩ : ∃ d, ofJson (offer [currency]) = .ok d := ⟨_, rfl⟩
  have hlint : (offer [currency]).lint =
      [.undefinedCondition ((pricePlace.key "conditions").index 0) "priced",
        .undefinedLimitation ((pricePlace.key "limits").index 0) "kind"] := rfl
  obtain ⟨hcondition, hlimit⟩ := lint_pointsAt hd
  refine ⟨⟨d, hd⟩, ?_, ?_⟩
  · have hf := hlint ▸ List.mem_cons_self
    obtain ⟨q, m, i, es, name, -, -, -, hpoints, hname, -⟩ := hcondition _ hf rfl
    exact ⟨_, hf, rfl, _, i, es, name, hpoints, hname⟩
  · have hf := hlint ▸ List.mem_cons_of_mem _ List.mem_cons_self
    obtain ⟨q, m, before, key, name, after, -, -, hlist, -, hfound, hpoints⟩ := hlimit _ hf rfl
    injection hfound with hplace
    -- the list is the one at the place that is told
    rw [← (Location.index_inj.mp hplace).1] at hlist
    have hlist' : [currency] = before ++ .obj [(key, .str name)] :: after := by
      injection hlist with h
      injection h
    refine ⟨_, hf, rfl, _, _, key, name, hpoints.mpr fun hnull => ?_⟩
    have hmem : Json.null ∈ [currency] := hlist' ▸ List.mem_append_left _ hnull
    simp [currency] at hmem

/-- A finding about the second item of a list, behind a null, is told with the place of the
first. -/
theorem lint_offer_astray :
    (∃ d, ofJson (offer [.null, currency]) = .ok d) ∧
    (offer [.null, currency]).lint.map (fun f => (f.code, f.path)) =
      [("E003", "/objects/0/items/0/0/conditions/0"), ("W002", "/objects/0/items/0/0/limits/0")] ∧
    (ofString "/objects/0/items/0/0/limits/0").outcome (offer [.null, currency]) = .ok none ∧
    (ofString "/objects/0/items/0/0/limits/1").outcome (offer [.null, currency]) =
      .ok (some currency) :=
  ⟨⟨_, rfl⟩, rfl, rfl, rfl⟩

end Document

end Reshape
