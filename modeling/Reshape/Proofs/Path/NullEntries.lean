/-
# Null entries of objects

`Json.stripNulls` takes the null entries out of every object of a value; null items of arrays
stay, for they hold the places of the items behind them.  Under a key of what is left stands what
was present under it (`get?_stripEntries`), and resolution asks for no more: null counts as nothing
wherever it is met.  So a path leads from the value without its null entries to what it led to,
without its null entries, and fails and warns as before.

In an object with a key twice a null entry would hide the one behind it.  Values that are read have
no such objects (`Source.wellFormed_of_read`).

Main statement: `resolve_stripNulls`.
-/
import Reshape.Proofs.Path.Congruence
import Reshape.Proofs.Path.Resolution
import Reshape.Proofs.WellFormed

namespace Reshape

namespace Json

mutual

/-- A value without the null entries of its objects, at every depth. -/
def stripNulls : Json → Json
  | arr items => arr (stripItems items)
  | obj es => obj (stripEntries es)
  | v => v

def stripItems : List Json → List Json
  | [] => []
  | v :: vs => stripNulls v :: stripItems vs

def stripEntries : List (String × Json) → List (String × Json)
  | [] => []
  | (k, v) :: es => if v.isNull then stripEntries es else (k, stripNulls v) :: stripEntries es

end

variable {v w : Json} {es : Entries Json} {key : String}

/-! ## 1. What is left -/

@[simp] theorem stripItems_eq_map (items : List Json) :
    stripItems items = items.map stripNulls := by
  induction items with
  | nil => rfl
  | cons v vs ih => rw [stripItems, ih, List.map_cons]

@[simp] theorem isNull_stripNulls (v : Json) : v.stripNulls.isNull = v.isNull := by
  cases v <;> rfl

theorem stripNulls_eq_null_iff : v.stripNulls = .null ↔ v = .null := by
  rw [← isNull_iff, isNull_stripNulls, isNull_iff]

theorem keys_stripEntries_subset (es : Entries Json) :
    Entries.keys (stripEntries es) ⊆ Entries.keys es := by
  induction es with
  | nil => exact List.Subset.refl _
  | cons entry es ih =>
    obtain ⟨k, v⟩ := entry
    rw [stripEntries, Entries.keys_cons]
    split
    · exact List.subset_cons_of_subset k ih
    · exact List.cons_subset_cons k ih

/-- Under a key stands what was present under it. -/
theorem get?_stripEntries (hd : Entries.Distinct es) (key : String) :
    Entries.get? key (stripEntries es) = (Path.present (Entries.get? key es)).map stripNulls := by
  induction es with
  | nil => rfl
  | cons entry es ih =>
    obtain ⟨k, v⟩ := entry
    obtain ⟨hk, hd'⟩ := List.nodup_cons.mp hd
    rw [stripEntries, Entries.get?_cons]
    by_cases hnull : v = .null
    · subst hnull
      by_cases hkey : k = key
      · -- a null entry goes, and there is no second one of its key
        subst hkey
        have hnone : Entries.get? k (stripEntries es) = none :=
          Entries.get?_eq_none_iff.mpr fun h => hk (keys_stripEntries_subset es h)
        simp [hnone, isNull]
      · simpa [isNull, hkey] using ih hd'
    · have hpresent : v.isNull = false := Path.isNull_eq_false hnull
      by_cases hkey : k = key
      · simp [hpresent, hkey, Path.present_some hnull]
      · simpa [hpresent, hkey] using ih hd'

end Json

namespace Path

open Reporting

variable {t v w : Json}

/-! ## 2. Paths -/

/-- A value in which no object has a key twice, and the value without its null entries. -/
def Strips (v w : Json) : Prop := v.WellFormed ∧ v.stripNulls = w

theorem access_strips (h : Strips v w) : SameAccess Strips v w := by
  obtain ⟨hv, rfl⟩ := h
  cases hv with
  | @arr items hitems =>
    rw [Json.stripNulls, Json.stripItems_eq_map]
    refine .items ?_
    rw [List.forall₂_map_right_iff]
    exact List.forall₂_same.mpr fun v hv => ⟨hitems v hv, rfl⟩
  | @obj es hd hes =>
    rw [Json.stripNulls]
    refine .entries (by simp) (by simp) fun key => ?_
    rw [Json.get?, Json.get?, Json.get?_stripEntries hd]
    cases hget : present (Entries.get? key es) with
    | none => exact .none
    | some u =>
      obtain ⟨hu, hne⟩ := present_eq_some_iff.mp hget
      rw [Option.map_some, present_some (mt Json.stripNulls_eq_null_iff.mp hne)]
      exact .some ⟨hes _ (Entries.mem_of_get? hu), rfl⟩
  | _ => exact .entries (by simp) (by simp [Json.stripNulls]) fun _ => .none

/-- Paths cannot tell a value from what is left of it. -/
theorem tracks_strips : Tracks Strips where
  isNull h := by
    obtain ⟨-, rfl⟩ := h
    exact (Json.isNull_stripNulls _).symm
  access := access_strips
  null := ⟨.null, rfl⟩
  arr {items items'} h := by
    obtain ⟨hwell, hmap⟩ := (List.forall₂_and_left _ _).mp h
    refine ⟨.arr hwell, ?_⟩
    rw [← List.forall₂_map_left_iff, List.forall₂_eq_eq_eq] at hmap
    rw [Json.stripNulls, Json.stripItems_eq_map, hmap]

theorem outcome_stripNulls (ht : t.WellFormed) (p : Path) :
    p.outcome t.stripNulls = (p.outcome t).map (Option.map Json.stripNulls) := by
  have h : Agree Eq (Option.Rel Strips) (p.resolve t) (p.resolve t.stripNulls) :=
    (tracks_strips.echoes_resolve p ⟨ht, rfl⟩).agree
  unfold Agree at h
  unfold outcome
  generalize (p.resolve t).result = x at h ⊢
  generalize (p.resolve t.stripNulls).result = y at h ⊢
  cases h with
  | ok hfound =>
    cases hfound with
    | none => rfl
    | some hvw =>
      obtain ⟨-, rfl⟩ := hvw
      rfl
  | error he => rw [he, Except.map]

/-- **A null entry of an object is as good as none.**  From a value without its null entries a path
leads to what it led to, without its null entries, or to nothing if it led to nothing; it fails
where it failed, at the same `*` of the same path, and it warns of the same. -/
theorem resolve_stripNulls (ht : t.WellFormed) (p : Path) :
    (∀ f, p.outcome t.stripNulls = .error f ↔ p.outcome t = .error f) ∧
    (p.outcome t.stripNulls = .ok none ↔ p.outcome t = .ok none) ∧
    (∀ w, p.outcome t.stripNulls = .ok (some w) ↔
      ∃ v, p.outcome t = .ok (some v) ∧ w = v.stripNulls) ∧
    (p.resolve t.stripNulls).notices = (p.resolve t).notices := by
  have hecho := tracks_strips.echoes_resolve p ⟨ht, rfl⟩
  rw [outcome_stripNulls ht]
  refine ⟨fun f => Result.map_eq_error, ?_, fun w => ?_, hecho.notices.symm⟩
  · rw [Result.map_eq_ok]
    constructor
    · rintro ⟨found, hfound, h⟩
      rw [hfound, Option.map_eq_none_iff.mp h.symm]
    · intro h
      exact ⟨none, h, rfl⟩
  · rw [Result.map_eq_ok]
    constructor
    · rintro ⟨found, hfound, h⟩
      obtain ⟨v, rfl, hv⟩ := Option.map_eq_some_iff.mp h.symm
      exact ⟨v, hfound, hv.symm⟩
    · rintro ⟨v, hv, rfl⟩
      exact ⟨some v, hv, rfl⟩

/-- Null entries at two depths, beside a null item. -/
def sparse : Json :=
  .obj [("owner", .null),
    ("rows", .arr [.obj [("id", .null), ("size", .obj [("unit", .null)])], .null])]

theorem wellFormed_sparse : sparse.WellFormed := by
  have hread : Json.read
      "\x7b\"owner\":null,\"rows\":[\x7b\"id\":null,\"size\":\x7b\"unit\":null\x7d\x7d,null]\x7d" =
      .ok sparse := Result.toOption_eq_some.mp (by decide +kernel)
  exact Json.wellFormed_of_read hread

/-- A path into `sparse` that leads to something, one that leads to nothing and one that fails. -/
theorem resolve_sparse_stripNulls :
    sparse.WellFormed ∧
    sparse.stripNulls = .obj [("rows", .arr [.obj [("size", .obj [])], .null])] ∧
    (ofString "rows/*/size").outcome sparse.stripNulls =
      .ok (some (Json.arr [.obj [("unit", .null)], .null]).stripNulls) ∧
    (ofString "owner/*").outcome sparse.stripNulls = .ok none ∧
    (ofString "rows/*/size/*").outcome sparse.stripNulls = .error ⟨["size"], ⟨["size", "*"]⟩⟩ ∧
    ((ofString "rows/*/id").resolve sparse.stripNulls).notices =
      ((ofString "rows/*/id").resolve sparse).notices := by
  have h := resolve_stripNulls wellFormed_sparse
  refine ⟨wellFormed_sparse, rfl, ?_, ?_, ?_, ?_⟩
  · exact ((h _).2.2.1 _).mpr ⟨_, rfl, rfl⟩
  · exact (h _).2.1.mpr rfl
  · exact ((h _).1 _).mpr rfl
  · exact (h _).2.2.2

end Path

end Reshape
