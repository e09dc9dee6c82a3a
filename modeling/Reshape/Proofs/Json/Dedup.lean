/-
# Lists without repeated values

`Json.dedup` goes through a list and keeps each value that equals none of those it has kept.  The
list it ends with is free of repetitions (`Unrepeated`); a list that is free of them is kept as it
is, so a second pass changes nothing (`dedup_dedup`).  A value stays where it comes for the first
time (`exists_dedup_append_cons`).  It makes no difference whether a list is filtered before or
after, if values that are the same are kept or dropped together (`filter_dedup`), as nulls are.

Of two lists in a row the first is kept as it is alone, and behind it what the second keeps alone,
but for what equals a value of the first (`dedup_append`).  One value at a time, that says which
places of a list are kept: those where the value equals none before it (`FirstOccurrences`).

Main statement: `dedup_representatives`.
-/
import Mathlib.Data.List.Induction
import Reshape.Proofs.Json.Equality

namespace Reshape.Json

variable {v : Json} {kept items : List Json}

/-- No two values of a list are equal. -/
def Unrepeated (items : List Json) : Prop := items.Pairwise fun v w => ¬v.Same w

theorem memberOf_iff_same : memberOf v items = true ↔ ∃ w ∈ items, v.Same w := memberOf_iff

theorem not_memberOf_iff : memberOf v items = false ↔ ∀ w ∈ items, ¬v.Same w := by
  rw [← Bool.not_eq_true, memberOf_iff_same]
  simp

/-! ## 1. What is kept is not repeated -/

theorem unrepeated_append_singleton :
    Unrepeated (kept ++ [v]) ↔ Unrepeated kept ∧ memberOf v kept = false := by
  rw [Unrepeated, List.pairwise_append, not_memberOf_iff]
  constructor
  · rintro ⟨hkept, -, hv⟩
    exact ⟨hkept, fun w hw h => hv w hw v (by simp) h.symm⟩
  · rintro ⟨hkept, hv⟩
    refine ⟨hkept, List.pairwise_singleton _ v, ?_⟩
    intro w hw v' hv' h
    rcases List.mem_singleton.mp hv' with rfl
    exact hv w hw h.symm

theorem unrepeated_dedupOnto (h : Unrepeated kept) : Unrepeated (dedupOnto kept items) := by
  induction items generalizing kept with
  | nil => exact h
  | cons v items ih =>
    cases hv : memberOf v kept with
    | true =>
      rw [dedupOnto, hv]
      exact ih h
    | false =>
      rw [dedupOnto, hv]
      exact ih (unrepeated_append_singleton.mpr ⟨h, hv⟩)

theorem unrepeated_dedup (items : List Json) : Unrepeated (dedup items) :=
  unrepeated_dedupOnto List.Pairwise.nil

theorem dedupOnto_of_unrepeated (h : Unrepeated (kept ++ items)) :
    dedupOnto kept items = kept ++ items := by
  induction items generalizing kept with
  | nil => simp [dedupOnto]
  | cons v items ih =>
    rw [List.append_cons] at h ⊢
    have hv : memberOf v kept = false :=
      (unrepeated_append_singleton.mp (List.pairwise_append.mp h).1).2
    rw [dedupOnto, hv]
    exact ih h

theorem dedup_of_unrepeated (h : Unrepeated items) : dedup items = items :=
  @dedupOnto_of_unrepeated [] items h

/-- A second pass changes nothing. -/
@[simp] theorem dedup_dedup (items : List Json) : dedup (dedup items) = dedup items :=
  dedup_of_unrepeated (unrepeated_dedup items)

/-! ## 2. What is kept, piece by piece -/

theorem dedupOnto_append (kept xs ys : List Json) :
    dedupOnto kept (xs ++ ys) = dedupOnto (dedupOnto kept xs) ys := by
  induction xs generalizing kept with
  | nil => rfl
  | cons v xs ih => exact ih _

/-- What is kept stays in front; behind it come values of the list, in order. -/
theorem exists_dedupOnto (kept items : List Json) :
    ∃ rest, dedupOnto kept items = kept ++ rest ∧ rest.Sublist items := by
  induction items generalizing kept with
  | nil => exact ⟨[], (List.append_nil kept).symm, .slnil⟩
  | cons v items ih =>
    rw [dedupOnto]
    split
    · obtain ⟨rest, hrest, hsub⟩ := ih kept
      exact ⟨rest, hrest, hsub.cons v⟩
    · obtain ⟨rest, hrest, hsub⟩ := ih (kept ++ [v])
      exact ⟨v :: rest, by rw [hrest, List.append_assoc]; rfl, hsub.cons_cons v⟩

theorem dedup_sublist (items : List Json) : (dedup items).Sublist items := by
  obtain ⟨rest, hrest, hsub⟩ := exists_dedupOnto [] items
  rwa [dedup, hrest]

/-- Nothing that a list has is lost, up to equality. -/
theorem memberOf_dedupOnto (v : Json) (kept items : List Json) :
    memberOf v (dedupOnto kept items) = memberOf v (kept ++ items) := by
  induction items generalizing kept with
  | nil => rw [dedupOnto, List.append_nil]
  | cons w items ih =>
    rw [dedupOnto, ih]
    split
    · next hw =>
      obtain ⟨u, hu, hwu⟩ := memberOf_iff_same.mp hw
      rw [Bool.eq_iff_iff, memberOf_iff_same, memberOf_iff_same]
      constructor
      · rintro ⟨x, hx, hvx⟩
        exact ⟨x, by rcases List.mem_append.mp hx with hx | hx <;> simp [hx], hvx⟩
      · rintro ⟨x, hx, hvx⟩
        rcases List.mem_append.mp hx with hx | hx
        · exact ⟨x, List.mem_append_left items hx, hvx⟩
        · rcases List.mem_cons.mp hx with rfl | hx
          · -- a value that is dropped equals one that is kept
            exact ⟨u, List.mem_append_left items hu, hvx.trans hwu⟩
          · exact ⟨x, List.mem_append_right kept hx, hvx⟩
    · rw [List.append_assoc]
      rfl

theorem memberOf_dedup (v : Json) (items : List Json) :
    memberOf v (dedup items) = memberOf v items :=
  memberOf_dedupOnto v [] items

/-- A value that equals none before it is kept, before what is kept of the rest. -/
theorem exists_dedup_append_cons {before after : List Json} (h : memberOf v before = false) :
    ∃ rest, dedup (before ++ v :: after) = dedup before ++ v :: rest ∧ rest ⊆ after := by
  obtain ⟨rest, hrest, hsub⟩ := exists_dedupOnto (dedup before ++ [v]) after
  have hnew : memberOf v (dedupOnto [] before) = false := (memberOf_dedup v before).trans h
  refine ⟨rest, ?_, hsub.subset⟩
  rw [dedup, dedupOnto_append, dedupOnto, hnew]
  simpa [dedup] using hrest

theorem memberOf_append (v : Json) (xs ys : List Json) :
    memberOf v (xs ++ ys) = (memberOf v xs || memberOf v ys) := List.any_append

/-- One value more is kept if it equals none before it. -/
theorem dedupOnto_append_singleton (kept items : List Json) (v : Json) :
    dedupOnto kept (items ++ [v]) =
      if memberOf v kept || memberOf v items then dedupOnto kept items
      else dedupOnto kept items ++ [v] := by
  rw [dedupOnto_append, dedupOnto, dedupOnto, memberOf_dedupOnto, memberOf_append]

theorem dedup_append_singleton (items : List Json) (v : Json) :
    dedup (items ++ [v]) = if memberOf v items then dedup items else dedup items ++ [v] :=
  dedupOnto_append_singleton [] items v

/-- Behind what is kept come the first occurrences of the list, but for those that equal something
that is kept. -/
theorem dedupOnto_eq (kept items : List Json) :
    dedupOnto kept items = kept ++ (dedup items).filter fun v => !memberOf v kept := by
  induction items using List.reverseRecOn with
  | nil => exact (List.append_nil kept).symm
  | append_singleton items v ih =>
    rw [dedupOnto_append_singleton, dedup_append_singleton, ih]
    cases hitems : memberOf v items with
    | true => rw [Bool.or_true, if_pos rfl, if_pos rfl]
    -- a value that the list brings up decides by what is kept alone, as the filter does
    | false => cases hkept : memberOf v kept <;> simp [hkept]

theorem dedup_append (xs ys : List Json) :
    dedup (xs ++ ys) = dedup xs ++ (dedup ys).filter fun v => !memberOf v xs := by
  have honto : dedup (xs ++ ys) = dedupOnto (dedup xs) ys := dedupOnto_append [] xs ys
  rw [honto, dedupOnto_eq]
  simp only [memberOf_dedup]

theorem dedup_dedup_append (xs ys : List Json) : dedup (dedup xs ++ ys) = dedup (xs ++ ys) := by
  rw [dedup_append, dedup_append, dedup_dedup]
  simp only [memberOf_dedup]

/-! ## 3. Filters -/

/-- A value that is dropped decides nothing about those that are kept: what equals it is dropped
too. -/
theorem filter_dedupOnto {p : Json → Bool} (hp : ∀ v w : Json, v.Same w → p v = p w) :
    (dedupOnto kept items).filter p = dedupOnto (kept.filter p) (items.filter p) := by
  induction items generalizing kept with
  | nil => rfl
  | cons v items ih =>
    rw [dedupOnto, ih]
    cases hv : p v with
    | false =>
      have hkept : (if memberOf v kept then kept else kept ++ [v]).filter p = kept.filter p := by
        split
        · rfl
        · simp [hv]
      rw [hkept, List.filter_cons_of_neg (by simp [hv])]
    | true =>
      have hmember : memberOf v (kept.filter p) = memberOf v kept := by
        rw [Bool.eq_iff_iff, memberOf_iff_same, memberOf_iff_same]
        constructor
        · rintro ⟨w, hw, h⟩
          exact ⟨w, (List.mem_filter.mp hw).1, h⟩
        · rintro ⟨w, hw, h⟩
          exact ⟨w, List.mem_filter.mpr ⟨hw, (hp v w h).symm.trans hv⟩, h⟩
      have hkept : (if memberOf v kept then kept else kept ++ [v]).filter p =
          if memberOf v (kept.filter p) then kept.filter p else kept.filter p ++ [v] := by
        rw [hmember]
        split
        · rfl
        · simp [hv]
      rw [hkept, List.filter_cons_of_pos hv, dedupOnto]

theorem filter_dedup {p : Json → Bool} (hp : ∀ v w : Json, v.Same w → p v = p w)
    (items : List Json) : (dedup items).filter p = dedup (items.filter p) :=
  @filter_dedupOnto [] items p hp

theorem dropNulls_dedup (items : List Json) :
    dropNulls (dedup items) = dedup (dropNulls items) :=
  filter_dedup (fun _ _ h => congrArg not h.isNull) items

@[simp] theorem dropNulls_dropNulls (items : List Json) :
    dropNulls (dropNulls items) = dropNulls items :=
  List.filter_filter.trans (by simp [dropNulls])

theorem null_not_mem_dropNulls (items : List Json) : .null ∉ dropNulls items := by
  simp [dropNulls, isNull]

theorem unrepeated_dropNulls (h : Unrepeated items) : Unrepeated (dropNulls items) :=
  h.filter _

/-! ## 4. First occurrences -/

/-- The value at a place of a list equals none before it. -/
def FirstAt (items : List Json) (i : Nat) : Prop :=
  ∃ v, items[i]? = some v ∧ ∀ w ∈ items.take i, ¬v.Same w

/-- What is kept of a list are the values that come for the first time, by their places in it. -/
structure FirstOccurrences (items : List Json) (places : List Nat) (kept : List Json) : Prop where
  increasing : places.Pairwise (· < ·)
  mem_iff (i : Nat) : i ∈ places ↔ FirstAt items i
  values : kept.map some = places.map fun i => items[i]?

theorem FirstAt.lt {i : Nat} (h : FirstAt items i) : i < items.length := by
  obtain ⟨v, hv, -⟩ := h
  exact (List.getElem?_eq_some_iff.mp hv).1

/-- One value more comes for the first time at its own place, or not at all. -/
theorem firstAt_append_singleton {i : Nat} : FirstAt (items ++ [v]) i ↔
    FirstAt items i ∨ i = items.length ∧ memberOf v items = false := by
  -- the place is one of the list's, that of the new value, or none
  rcases Nat.lt_trichotomy i items.length with hlt | rfl | hgt
  · have hne : i ≠ items.length := Nat.ne_of_lt hlt
    have htake : (items ++ [v]).take i = items.take i :=
      List.take_append_of_le_length (Nat.le_of_lt hlt)
    simp only [FirstAt, List.getElem?_append_left hlt, htake, hne, false_and, or_false]
  · have hold : ¬FirstAt items items.length := fun h => Nat.lt_irrefl _ h.lt
    simp only [hold, false_or, true_and, not_memberOf_iff]
    simp [FirstAt]
  · have hold : ¬FirstAt items i := fun h => Nat.lt_asymm hgt h.lt
    have hnew : ¬FirstAt (items ++ [v]) i := by
      intro h
      have := h.lt
      rw [List.length_append, List.length_singleton] at this
      omega
    simp only [hold, hnew, Nat.ne_of_gt hgt, false_and, or_self]

namespace FirstOccurrences

variable {places : List Nat}

theorem map_append_singleton (h : FirstOccurrences items places kept) (v : Json) :
    (places.map fun i => (items ++ [v])[i]?) = places.map fun i => items[i]? := by
  refine List.map_congr_left fun i hi => ?_
  exact List.getElem?_append_left ((h.mem_iff i).mp hi).lt

/-- A value that equals one before it is passed over. -/
theorem pass (h : FirstOccurrences items places kept) (hv : memberOf v items = true) :
    FirstOccurrences (items ++ [v]) places kept := by
  refine ⟨h.increasing, fun i => ?_, by rw [h.map_append_singleton, h.values]⟩
  rw [h.mem_iff, firstAt_append_singleton, hv]
  simp

/-- A value that equals none before it is kept. -/
theorem keep (h : FirstOccurrences items places kept) (hv : memberOf v items = false) :
    FirstOccurrences (items ++ [v]) (places ++ [items.length]) (kept ++ [v]) := by
  refine ⟨?_, fun i => ?_, ?_⟩
  · refine List.pairwise_append.mpr ⟨h.increasing, List.pairwise_singleton _ _, ?_⟩
    intro i hi j hj
    rw [List.mem_singleton.mp hj]
    exact ((h.mem_iff i).mp hi).lt
  · rw [List.mem_append, List.mem_singleton, h.mem_iff, firstAt_append_singleton, hv]
    simp
  · rw [List.map_append, List.map_append, h.map_append_singleton, h.values]
    simp

end FirstOccurrences

/-- **What is kept are the first occurrences**, value by value. -/
theorem exists_firstOccurrences (items : List Json) :
    ∃ places, FirstOccurrences items places (dedup items) := by
  induction items using List.reverseRecOn with
  | nil => exact ⟨[], .nil, by simp [FirstAt], rfl⟩
  | append_singleton items v ih =>
    obtain ⟨places, h⟩ := ih
    rw [dedup_append_singleton]
    cases hv : memberOf v items with
    | true => exact ⟨places, h.pass hv⟩
    | false => exact ⟨places ++ [items.length], h.keep hv⟩

/-! ## 5. Representatives -/

theorem not_memberOf_eq (v : Json) (items : List Json) :
    (!memberOf v items) = decide (∀ w ∈ items, ¬v.Same w) := by
  rw [Bool.eq_iff_iff, Bool.not_eq_true', not_memberOf_iff, decide_eq_true_iff]

/-- **One representative of each value is kept**, where it comes for the first time.  Equality of
values is an equivalence, and holds between two values exactly if it does so part by part, entries
being found by their keys in any order.  What is kept stands in the list in this order; no two
values of it are equal, and each value of the list equals one of them.  They are the values at those
places of the list where a value equals none before it.  A second pass changes nothing, and neither
does a pass over the front of a list alone; behind what the front leaves come the representatives of
the rest that equal nothing in front. -/
theorem dedup_representatives (items : List Json) :
    Equivalence Same ∧
    (∀ v w : Json, v.WellFormed → w.WellFormed → (v.Same w ↔ SameParts v w)) ∧
    (dedup items).Sublist items ∧
    (dedup items).Pairwise (fun v w => ¬v.Same w) ∧
    (∀ v ∈ items, ∃ w ∈ dedup items, v.Same w) ∧
    (∃ places, FirstOccurrences items places (dedup items)) ∧
    dedup (dedup items) = dedup items ∧
    ∀ more, dedup (items ++ more) = dedup (dedup items ++ more) ∧
      dedup (items ++ more) = dedup items ++
        (dedup more).filter fun v => ∀ w ∈ items, ¬v.Same w := by
  refine ⟨equivalence_same, fun v w => same_iff_parts, dedup_sublist items, unrepeated_dedup items,
    ?_, exists_firstOccurrences items, dedup_dedup items, fun more => ⟨?_, ?_⟩⟩
  · intro v hv
    have hkept : memberOf v (dedup items) = true := by
      rw [memberOf_dedup]
      exact memberOf_iff_same.mpr ⟨v, hv, .refl v⟩
    exact memberOf_iff_same.mp hkept
  · exact (dedup_dedup_append items more).symm
  · rw [dedup_append]
    simp only [not_memberOf_eq]

/-- A point. -/
def point : Json := .obj [("x", .int 1), ("y", .null)]

/-- The same point, with its entries in another order. -/
def turned : Json := .obj [("y", .null), ("x", .int 1)]

/-- The point twice, and between its two forms the three zeros. -/
def measurements : List Json :=
  [point, .int 0, .float (.zero false), .float (.zero true), turned, .int 0]

theorem wellFormed_point : point.WellFormed :=
  .obj (by simp [Entries.Distinct]) (by simp [WellFormed.null, WellFormed.int])

theorem wellFormed_turned : turned.WellFormed :=
  .obj (by simp [Entries.Distinct]) (by simp [WellFormed.null, WellFormed.int])

theorem sameParts_point : SameParts point turned := by
  refine .obj (fun key => ?_) rfl
  by_cases hx : "x" = key
  · subst hx
    exact .some (.refl _)
  · by_cases hy : "y" = key
    · subst hy
      exact .some (.refl _)
    · simp [hx, hy]

theorem measurements_representatives :
    dedup measurements = [point, .int 0, .float (.zero false)] ∧
    (.float (.zero true) ∈ measurements ∧
      ∃ w ∈ dedup measurements, (Json.float (.zero true)).Same w) ∧
    (point.WellFormed ∧ turned.WellFormed ∧ point.Same turned) ∧
    ¬(Json.int 0).Same (.float (.zero false)) := by
  obtain ⟨-, hparts, -, -, hcovers, -⟩ := dedup_representatives measurements
  have hzero : .float (.zero true) ∈ measurements := by simp [measurements]
  have hsame : point.Same turned :=
    (hparts _ _ wellFormed_point wellFormed_turned).mpr sameParts_point
  refine ⟨by decide +kernel, ⟨hzero, hcovers _ hzero⟩,
    ⟨wellFormed_point, wellFormed_turned, hsame⟩, fun h => ?_⟩
  nomatch (hparts _ _ (.int 0) (.float _)).mp h

end Reshape.Json
