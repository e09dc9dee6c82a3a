/-
# What writing keys in lower case does

`LowerCases v w` says that `w` is `v` with its keys in lower case, without saying how: an object
has the keys of the other in lower case, each in the place of its first occurrence, and under
each key what is made of the last value whose key comes to it.  There is one such value, and
`normalizeKeys` is it (`lowerCases_iff`).

* Once is enough (`normalizeKeys_normalizeKeys`), since lower case is final.
* Values that differ only in the case of their keys come to one value
  (`CaseVariant.normalizeKeys_eq`).
* Where no two keys of an object come to one key, values that are the same come to values that
  are the same (`same_normalizeKeys`).
-/
import Mathlib.Data.List.Nodup
import Reshape.Json.Keys
import Reshape.Proofs.Json.Equality
import Reshape.Proofs.Unicode.Case

namespace Reshape.Json

open Text (lowercase)

/-! ## 1. The keys of an object -/

/-- The entry that an entry of an object writes. -/
def lowerEntry (e : String × Json) : String × Json := (lowercase e.1, e.2.normalizeKeys)

theorem normalizeKeys_obj (es : Entries Json) :
    normalizeKeys (.obj es) = .obj (Entries.ofList (es.map lowerEntry)) := by
  rw [normalizeKeys, normalizeEntries_eq_map]
  rfl

theorem normalizeKeys_arr (items : List Json) :
    normalizeKeys (.arr items) = .arr (items.map normalizeKeys) := by
  rw [normalizeKeys, normalizeItems_eq_map]

theorem keys_map_lowerEntry (es : Entries Json) :
    Entries.keys (es.map lowerEntry) = (Entries.keys es).map lowercase := by
  simp [Entries.keys, Function.comp_def, lowerEntry]

/-- Under a key stands what is made of the last value whose key comes to it. -/
theorem get?_ofList_lowerEntry {es : Entries Json} {key : String} {w : Json} :
    Entries.get? key (Entries.ofList (es.map lowerEntry)) = some w ↔
      ∃ e, IsLast (fun e => lowercase e.1 = key) es e ∧ e.2.normalizeKeys = w := by
  rw [Entries.get?_ofList, Entries.get?_reverse_map]
  rfl

/-! ## 2. The value with its keys in lower case -/

/-- A value is another with its keys in lower case. -/
inductive LowerCases : Json → Json → Prop
  | null : LowerCases .null .null
  | bool (b : Bool) : LowerCases (.bool b) (.bool b)
  | int (n : Int) : LowerCases (.int n) (.int n)
  | float (x : Binary64) : LowerCases (.float x) (.float x)
  | str (s : String) : LowerCases (.str s) (.str s)
  | arr {items items' : List Json} (h : List.Forall₂ LowerCases items items') :
      LowerCases (.arr items) (.arr items')
  | obj {es fs : Entries Json}
      (hkeys : Entries.keys fs = ((Entries.keys es).map lowercase).eraseDups)
      (hlast : ∀ e w, IsLast (fun f => lowercase f.1 = lowercase e.1) es e →
        Entries.get? (lowercase e.1) fs = some w → LowerCases e.2 w) :
      LowerCases (.obj es) (.obj fs)

theorem lowerCases_normalizeKeys (v : Json) : LowerCases v v.normalizeKeys := by
  induction v with
  | null => exact .null
  | bool b => exact .bool b
  | int n => exact .int n
  | float x => exact .float x
  | str s => exact .str s
  | arr items ih =>
    rw [normalizeKeys_arr]
    refine .arr ?_
    rw [List.forall₂_map_right_iff, List.forall₂_same]
    exact ih
  | obj es ih =>
    rw [normalizeKeys_obj]
    refine .obj ?_ fun e w hlast hw => ?_
    · rw [Entries.keys_ofList, keys_map_lowerEntry]
    · have hread : Entries.get? (lowercase e.1) (Entries.ofList (es.map lowerEntry)) =
          some e.2.normalizeKeys := get?_ofList_lowerEntry.mpr ⟨e, hlast, rfl⟩
      rw [hread] at hw
      cases hw
      exact ih e hlast.mem

theorem LowerCases.eq_normalizeKeys {v w : Json} (h : LowerCases v w) : w = v.normalizeKeys := by
  induction v generalizing w with
  | null | bool | int | float | str => cases h; rfl
  | arr items ih =>
    cases h with
    | @arr _ items' h =>
      have hstep : List.Forall₂ (fun v w => w = v.normalizeKeys) items items' :=
        ((List.forall₂_and_left _ _).mpr ⟨ih, h⟩).imp fun v w hvw => hvw.1 hvw.2
      have hmap : items' = items.map normalizeKeys := by
        rw [← List.forall₂_eq_eq_eq, List.forall₂_map_right_iff]
        exact hstep.flip
      rw [normalizeKeys_arr, hmap]
  | obj es ih =>
    cases h with
    | @obj _ fs hkeys hlast =>
      -- what stands in `fs` under the key of an entry, if that is the last one to come to it
      have hread : ∀ e, IsLast (fun f => lowercase f.1 = lowercase e.1) es e →
          Entries.get? (lowercase e.1) fs = some e.2.normalizeKeys := by
        intro e he
        have hmem : lowercase e.1 ∈ Entries.keys fs := by
          rw [hkeys, List.mem_eraseDups]
          exact List.mem_map_of_mem (List.mem_map_of_mem he.mem)
        obtain ⟨w, hw⟩ := Entries.exists_get?_of_mem_keys hmem
        rw [hw, ih e he.mem (hlast e w he hw)]
      have hwritten : Entries.Written (es.map lowerEntry) fs := by
        refine .of_isLast ?_ hread
        rw [hkeys, Entries.keys, List.map_map]
        rfl
      rw [normalizeKeys_obj, hwritten.eq_ofList]

theorem lowerCases_iff {v w : Json} : LowerCases v w ↔ w = v.normalizeKeys := by
  constructor
  · exact LowerCases.eq_normalizeKeys
  · rintro rfl
    exact lowerCases_normalizeKeys v

/-! ## 3. Once is enough -/

/-- **Writing keys in lower case once more changes nothing.** -/
theorem normalizeKeys_normalizeKeys (v : Json) :
    v.normalizeKeys.normalizeKeys = v.normalizeKeys := by
  induction v with
  | null | bool | int | float | str => rfl
  | arr items ih =>
    rw [normalizeKeys_arr, normalizeKeys_arr, List.map_map]
    exact congrArg arr (List.map_congr_left ih)
  | obj es ih =>
    rw [normalizeKeys_obj, normalizeKeys_obj]
    have hstays : ∀ e ∈ Entries.ofList (es.map lowerEntry), lowerEntry e = e := by
      intro e he
      obtain ⟨f, hf, rfl⟩ := List.mem_map.mp (Entries.mem_of_mem_ofList he)
      exact Prod.ext (Text.lowercase_lowercase f.1) (ih f hf)
    rw [List.map_congr_left hstays, List.map_id',
      Entries.ofList_of_distinct (Entries.distinct_ofList _)]

/-! ## 4. Keys in another case -/

/-- Two values differ only in the case of their keys. -/
inductive CaseVariant : Json → Json → Prop
  | null : CaseVariant .null .null
  | bool (b : Bool) : CaseVariant (.bool b) (.bool b)
  | int (n : Int) : CaseVariant (.int n) (.int n)
  | float (x : Binary64) : CaseVariant (.float x) (.float x)
  | str (s : String) : CaseVariant (.str s) (.str s)
  | arr {items items' : List Json} (h : List.Forall₂ CaseVariant items items') :
      CaseVariant (.arr items) (.arr items')
  | obj {es fs : Entries Json}
      (hkeys : (Entries.keys es).map lowercase = (Entries.keys fs).map lowercase)
      (h : List.Forall₂ CaseVariant (Entries.values es) (Entries.values fs)) :
      CaseVariant (.obj es) (.obj fs)

/-- **Values that differ only in the case of their keys come to one value.** -/
theorem CaseVariant.normalizeKeys_eq {v w : Json} (h : CaseVariant v w) :
    v.normalizeKeys = w.normalizeKeys := by
  have hmap : ∀ {vs ws : List Json}, (∀ v ∈ vs, ∀ w, CaseVariant v w →
      v.normalizeKeys = w.normalizeKeys) → List.Forall₂ CaseVariant vs ws →
      vs.map normalizeKeys = ws.map normalizeKeys := by
    intro vs ws ih h
    rw [← List.forall₂_eq_eq_eq, List.forall₂_map_left_iff, List.forall₂_map_right_iff]
    exact ((List.forall₂_and_left _ _).mpr ⟨ih, h⟩).imp fun v w hvw => hvw.1 w hvw.2
  induction v generalizing w with
  | null | bool | int | float | str => cases h; rfl
  | arr items ih =>
    cases h with
    | arr h => rw [normalizeKeys_arr, normalizeKeys_arr, hmap (fun v hv w => ih v hv) h]
  | obj es ih =>
    cases h with
    | obj hkeys h =>
      have hvalues := hmap (fun v hv w => by
        obtain ⟨e, he, rfl⟩ := List.mem_map.mp hv
        exact ih e he) h
      have hzip : ∀ es : Entries Json, es.map lowerEntry =
          ((Entries.keys es).map lowercase).zip ((Entries.values es).map normalizeKeys) := by
        intro es
        induction es with
        | nil => rfl
        | cons e es ih => exact congrArg _ ih
      rw [normalizeKeys_obj, normalizeKeys_obj, hzip, hzip, hkeys, hvalues]

/-! ## 5. Values without colliding keys -/

/-- No object of the value, at any depth, has two keys that come to one key in lower case. -/
inductive Uncolliding : Json → Prop
  | null : Uncolliding .null
  | bool (b : Bool) : Uncolliding (.bool b)
  | int (n : Int) : Uncolliding (.int n)
  | float (x : Binary64) : Uncolliding (.float x)
  | str (s : String) : Uncolliding (.str s)
  | arr {items : List Json} (h : ∀ v ∈ items, Uncolliding v) : Uncolliding (.arr items)
  | obj {es : Entries Json} (hkeys : ((Entries.keys es).map lowercase).Nodup)
      (h : ∀ e ∈ es, Uncolliding e.2) : Uncolliding (.obj es)

theorem Uncolliding.of_arr {items : List Json} (h : Uncolliding (.arr items)) :
    ∀ v ∈ items, Uncolliding v := by
  cases h with
  | arr hs => exact hs

theorem Uncolliding.of_obj {es : Entries Json} (h : Uncolliding (.obj es)) :
    ((Entries.keys es).map lowercase).Nodup ∧ ∀ e ∈ es, Uncolliding e.2 := by
  cases h with
  | obj hkeys hs => exact ⟨hkeys, hs⟩

theorem distinct_of_nodup_lowercase {es : Entries Json}
    (h : ((Entries.keys es).map lowercase).Nodup) : Entries.Distinct es :=
  List.Nodup.of_map lowercase h

theorem get?_lowerEntry {es : Entries Json} (h : ((Entries.keys es).map lowercase).Nodup)
    {key : String} {w : Json} :
    Entries.get? key (Entries.ofList (es.map lowerEntry)) = some w ↔
      ∃ k v, Entries.get? k es = some v ∧ lowercase k = key ∧ v.normalizeKeys = w := by
  have hd : Entries.Distinct (es.map lowerEntry) := by
    rw [Entries.Distinct, keys_map_lowerEntry]
    exact h
  rw [Entries.ofList_of_distinct hd, Entries.get?_eq_some_iff hd, List.mem_map]
  constructor
  · rintro ⟨⟨k, v⟩, hmem, he⟩
    cases he
    exact ⟨k, v, (Entries.get?_eq_some_iff (distinct_of_nodup_lowercase h)).mpr hmem, rfl, rfl⟩
  · rintro ⟨k, v, hget, rfl, rfl⟩
    exact ⟨(k, v), Entries.mem_of_get? hget, rfl⟩

/-- Keys in lower case read the same in objects that read the same. -/
theorem get?_lowerEntry_of_get? {es fs : Entries Json}
    (hes : ((Entries.keys es).map lowercase).Nodup) (hfs : ((Entries.keys fs).map lowercase).Nodup)
    (hget : ∀ key, Option.Rel Same (Entries.get? key es) (Entries.get? key fs))
    (ih : ∀ key v w, Entries.get? key es = some v → Entries.get? key fs = some w → v.Same w →
      v.normalizeKeys.Same w.normalizeKeys) (key : String) :
    Option.Rel Same (Entries.get? key (Entries.ofList (es.map lowerEntry)))
      (Entries.get? key (Entries.ofList (fs.map lowerEntry))) := by
  cases hv : Entries.get? key (Entries.ofList (es.map lowerEntry)) with
  | some v' =>
    obtain ⟨k, v, hk, rfl, rfl⟩ := (get?_lowerEntry hes).mp hv
    have hrel := hget k
    rw [hk] at hrel
    cases hw : Entries.get? k fs with
    | none =>
      rw [hw] at hrel
      cases hrel
    | some w =>
      rw [hw] at hrel
      cases hrel with
      | some hvw =>
        rw [(get?_lowerEntry hfs).mpr ⟨k, w, hw, rfl, rfl⟩]
        exact .some (ih k v w hk hw hvw)
  | none =>
    cases hw : Entries.get? key (Entries.ofList (fs.map lowerEntry)) with
    | none => exact .none
    | some w' =>
      -- whatever comes to the key on the right has a partner on the left
      obtain ⟨k, w, hk, rfl, rfl⟩ := (get?_lowerEntry hfs).mp hw
      have hrel := hget k
      rw [hk] at hrel
      cases hv' : Entries.get? k es with
      | none =>
        rw [hv'] at hrel
        cases hrel
      | some v =>
        rw [(get?_lowerEntry hes).mpr ⟨k, v, hv', rfl, rfl⟩] at hv
        cases hv

/-- **Values that are the same stay the same** with their keys in lower case, if no two keys of
an object come to one key. -/
theorem same_normalizeKeys {v w : Json} (hv : v.Uncolliding) (hw : w.Uncolliding)
    (h : v.Same w) : v.normalizeKeys.Same w.normalizeKeys := by
  induction v generalizing w with
  | null | bool | int | str => cases h.parts; rfl
  | float x =>
    cases h.parts
    exact h
  | arr items ih =>
    cases h.parts with
    | @arr _ items' hs =>
      have hvs := hv.of_arr
      have hws := hw.of_arr
      clear h hv hw
      rw [normalizeKeys_arr, normalizeKeys_arr]
      refine same_arr ?_
      rw [List.forall₂_map_left_iff, List.forall₂_map_right_iff]
      induction hs with
      | nil => exact .nil
      | @cons v w vs ws hvw _ ih' =>
        refine .cons (ih v List.mem_cons_self (hvs v List.mem_cons_self)
          (hws w List.mem_cons_self) hvw) (ih' ?_ ?_ ?_)
        · exact fun x hx => ih x (List.mem_cons_of_mem v hx)
        · exact fun x hx => hvs x (List.mem_cons_of_mem v hx)
        · exact fun y hy => hws y (List.mem_cons_of_mem w hy)
  | obj es ih =>
    cases h.parts with
    | @obj _ fs hget hempty =>
      obtain ⟨hes, hvs⟩ := hv.of_obj
      obtain ⟨hfs, hws⟩ := hw.of_obj
      rw [normalizeKeys_obj, normalizeKeys_obj]
      refine same_obj (Entries.distinct_ofList _) (Entries.distinct_ofList _) ?_
      refine get?_lowerEntry_of_get? hes hfs hget fun key v w hv hw hvw => ?_
      have hmem := Entries.mem_of_get? hv
      exact ih (key, v) hmem (hvs _ hmem) (hws _ (Entries.mem_of_get? hw)) hvw

end Reshape.Json
