/-
# The latest of dates

`max_datetime_array_value` reads every item of an array as a date, in the first form that takes it,
and keeps the latest instant that it has met.  The items are compared as instants, so what is found
is the latest of all that they write (`Latest`, `maxDatetime_of_latest`).  That hangs on which
instants are written and on nothing else: not on the order of the items, on how often one is there,
or on the form in which it is written.

Main statement: `maxDatetime_latest`.
-/
import Reshape.Proofs.Calendar.Validity
import Reshape.Proofs.Sequence
import Reshape.Transform.Builtin

namespace Reshape.Transform

open Reporting

variable {v w : Json} {t u : Instant} {ts : List Instant} {items items' extra : List Json}
  {err : TransformError}

/-! ## 1. Items -/

/-- An item is a text, and the first reader that takes it reads an instant. -/
def Writes (v : Json) (t : Instant) : Prop :=
  ∃ s before r after rest, v = .str s ∧ Calendar.readers = before ++ r :: after ∧
    (∀ r' ∈ before, r'.run s.toList = none) ∧ r.run s.toList = some (t, rest)

/-- An item is no text, or a text that no reader takes. -/
def Unreadable (v : Json) : Prop :=
  ∀ s, v = .str s → ∀ r ∈ Calendar.readers, r.run s.toList = none

theorem read?_eq_some_iff {s : String} : Instant.read? s = some t ↔ Writes (.str s) t := by
  rw [Instant.read?, List.findSome?_eq_some_iff]
  constructor
  · rintro ⟨before, r, after, hreaders, hr, hbefore⟩
    obtain ⟨⟨u, rest⟩, hrun, rfl⟩ := Option.map_eq_some_iff.mp hr
    exact ⟨s, before, r, after, rest, rfl, hreaders,
      fun r' hr' => Option.map_eq_none_iff.mp (hbefore r' hr'), hrun⟩
  · rintro ⟨s', before, r, after, rest, hs, hreaders, hbefore, hrun⟩
    cases hs
    exact ⟨before, r, after, hreaders, by rw [hrun]; rfl,
      fun r' hr' => Option.map_eq_none_iff.mpr (hbefore r' hr')⟩

theorem read?_eq_none_iff {s : String} : Instant.read? s = none ↔ Unreadable (.str s) := by
  rw [Instant.read?, List.findSome?_eq_none_iff]
  simp [Unreadable]

theorem instantOf_eq_ok : instantOf v = .ok t ↔ Writes v t := by
  cases v with
  | str s =>
    have hread : (Json.str s).str?.bind Instant.read? = Instant.read? s := rfl
    rw [← read?_eq_some_iff, instantOf, hread]
    cases Instant.read? s <;> simp
  | _ => simp [instantOf, Json.str?, Writes]

theorem instantOf_eq_error : instantOf v = .error err ↔ Unreadable v ∧
    err = .failed "max_datetime_array_value" s!"cannot parse {v.compact} as a date" := by
  cases v with
  | str s =>
    have hread : (Json.str s).str?.bind Instant.read? = Instant.read? s := rfl
    rw [← read?_eq_none_iff, instantOf, hread]
    cases Instant.read? s <;> simp [eq_comm]
  | _ => simp [instantOf, Json.str?, Unreadable, eq_comm]

theorem Writes.valid (h : Writes v t) : t.Valid := by
  obtain ⟨s, hs⟩ : ∃ s, v = .str s := by
    obtain ⟨s, -, -, -, -, hs, -⟩ := h
    exact ⟨s, hs⟩
  exact Instant.valid_of_read? (read?_eq_some_iff.mpr (hs ▸ h))

/-- What an item writes is decided by the item. -/
theorem Writes.unique (h : Writes v t) (h' : Writes v u) : t = u := by
  have := (instantOf_eq_ok.mpr h).symm.trans (instantOf_eq_ok.mpr h')
  exact Except.ok.inj this

/-! ## 2. Instants -/

/-- An instant is one of some instants, and none of them is later. -/
structure IsLatest (ts : List Instant) (t : Instant) : Prop where
  mem : t ∈ ts
  le : ∀ u ∈ ts, u.rank ≤ t.rank

/-- One instant more: the later one is the latest. -/
theorem IsLatest.step (h : IsLatest ts t) (u : Instant) :
    IsLatest (ts ++ [u]) (if u.laterThan t then u else t) := by
  have hcompare : u.laterThan t = true ↔ t.rank < u.rank := decide_eq_true_iff
  by_cases hlater : u.laterThan t = true
  · rw [if_pos hlater]
    refine ⟨by simp, List.forall_mem_append.mpr ⟨fun w hw => ?_, by simp⟩⟩
    have := h.le w hw
    have := hcompare.mp hlater
    omega
  · rw [if_neg hlater]
    refine ⟨List.mem_append_left _ h.mem, List.forall_mem_append.mpr ⟨h.le, ?_⟩⟩
    rw [hcompare] at hlater
    simpa using hlater

/-- **The latest of some instants is found**, instant by instant. -/
theorem exists_latest (hne : ts ≠ []) : ∃ t, latest ts = some t ∧ IsLatest ts t := by
  induction ts using List.reverseRecOn with
  | nil => exact absurd rfl hne
  | append_singleton ts u ih =>
    cases ts with
    | nil => exact ⟨u, rfl, by simp, by simp⟩
    | cons first ts =>
      obtain ⟨t, hlatest, ht⟩ := ih (List.cons_ne_nil _ _)
      refine ⟨_, ?_, ht.step u⟩
      rw [latest] at hlatest
      rw [List.cons_append, latest, List.foldl_append, Option.some.inj hlatest]
      rfl

/-! ## 3. Arrays -/

/-- An instant is the latest of those that the items of an array write; all of them write one. -/
structure Latest (items : List Json) (t : Instant) : Prop where
  written : ∃ v ∈ items, Writes v t
  le : ∀ v ∈ items, ∃ u, Writes v u ∧ u.rank ≤ t.rank

namespace Latest

/-- There is one latest instant: the order of the instants that are read is total. -/
theorem unique (h : Latest items t) (h' : Latest items u) : t = u := by
  obtain ⟨v, hv, hvt⟩ := h.written
  obtain ⟨w, hw, hwu⟩ := h'.written
  obtain ⟨t', hvt', hle⟩ := h'.le v hv
  obtain ⟨u', hwu', hle'⟩ := h.le w hw
  rw [← hvt.unique hvt'] at hle
  rw [← hwu.unique hwu'] at hle'
  exact Instant.eq_of_rank_eq hvt.valid hwu.valid (Int.le_antisymm hle hle')

theorem writes (h : Latest items t) : ∀ v ∈ items, ∃ u, Writes v u := by
  intro v hv
  obtain ⟨u, hu, -⟩ := h.le v hv
  exact ⟨u, hu⟩

/-- Further items that write nothing later change nothing. -/
theorem of_subset (h : Latest items t) (hsub : items ⊆ items')
    (hle : ∀ v ∈ items', ∃ u, Writes v u ∧ u.rank ≤ t.rank) : Latest items' t := by
  obtain ⟨v, hv, hvt⟩ := h.written
  exact ⟨⟨v, hsub hv, hvt⟩, hle⟩

theorem of_isLatest (hts : List.Forall₂ Writes items ts) (h : IsLatest ts t) : Latest items t := by
  obtain ⟨v, hv, hvt⟩ := Result.exists_of_forall₂ hts h.mem
  refine ⟨⟨v, hv, hvt⟩, fun w hw => ?_⟩
  obtain ⟨u, hu, hwu⟩ := Result.exists_of_forall₂ hts.flip hw
  exact ⟨u, hwu, h.le u hu⟩

end Latest

theorem maxDatetime_eq (items : List Json) : maxDatetime (.arr items) [] = .ofExcept
    ((items.mapM instantOf).map fun ts => (latest ts).elim .null fun t => .str t.text) := by
  cases h : items.mapM instantOf <;> simp [maxDatetime, nullary, h] <;> rfl

/-- Items that all write an instant, but for an empty array, have a latest. -/
theorem exists_latest_of_writes (hne : items ≠ []) (h : ∀ v ∈ items, ∃ t, Writes v t) :
    ∃ t, Latest items t := by
  obtain ⟨ts, hts⟩ := Result.exists_forall₂.mpr h
  have hts' : ts ≠ [] := by
    rintro rfl
    exact hne (List.forall₂_nil_right_iff.mp hts)
  obtain ⟨t, -, ht⟩ := exists_latest hts'
  exact ⟨t, .of_isLatest hts ht⟩

/-- **The latest instant is found**, and told in universal time. -/
theorem maxDatetime_of_latest (h : Latest items t) :
    maxDatetime (.arr items) [] = pure (.str t.text) := by
  obtain ⟨ts, hts⟩ := Result.exists_forall₂.mpr h.writes
  have hne : ts ≠ [] := by
    rintro rfl
    obtain ⟨v, hv, -⟩ := h.written
    rw [List.forall₂_nil_right_iff.mp hts] at hv
    cases hv
  have hmap : items.mapM instantOf = .ok ts :=
    Result.mapM_eq_ok.mpr (hts.imp fun _ _ => instantOf_eq_ok.mpr)
  obtain ⟨u, hlatest, hu⟩ := exists_latest hne
  rw [maxDatetime_eq, hmap, h.unique (.of_isLatest hts hu)]
  simp only [Except.map, hlatest]
  rfl

/-- An array has a result exactly if all of its items write an instant. -/
theorem exists_maxDatetime_iff : (∃ w, (maxDatetime (.arr items) []).result = .ok w) ↔
    ∀ v ∈ items, ∃ t, Writes v t := by
  have hresult : (∃ w, (maxDatetime (.arr items) []).result = .ok w) ↔
      ∃ ts, items.mapM instantOf = .ok ts := by
    rw [maxDatetime_eq]
    exact Result.exists_map_ok
  rw [hresult, ← Result.exists_forall₂]
  simp only [Result.mapM_eq_ok, instantOf_eq_ok]

/-- What the result of an array is. -/
theorem maxDatetime_eq_ok : (maxDatetime (.arr items) []).result = .ok w ↔
    items = [] ∧ w = .null ∨ ∃ t, Latest items t ∧ w = .str t.text := by
  have hnil : (maxDatetime (.arr []) []).result = .ok .null := rfl
  constructor
  · intro h
    by_cases hne : items = []
    · subst hne
      rw [hnil] at h
      exact .inl ⟨rfl, (Except.ok.inj h).symm⟩
    · obtain ⟨t, ht⟩ := exists_latest_of_writes hne (exists_maxDatetime_iff.mp ⟨w, h⟩)
      rw [maxDatetime_of_latest ht] at h
      exact .inr ⟨t, ht, (Except.ok.inj h).symm⟩
  · rintro (⟨rfl, rfl⟩ | ⟨t, ht, rfl⟩)
    · exact hnil
    · rw [maxDatetime_of_latest ht]
      rfl

/-- The first item that is no date is told. -/
theorem maxDatetime_eq_error : (maxDatetime (.arr items) []).result = .error err ↔
    ∃ before v after, items = before ++ v :: after ∧ (∀ w ∈ before, ∃ t, Writes w t) ∧
      Unreadable v ∧
      err = .failed "max_datetime_array_value" s!"cannot parse {v.compact} as a date" := by
  have hresult : (maxDatetime (.arr items) []).result = .error err ↔
      items.mapM instantOf = .error err := by
    rw [maxDatetime_eq]
    exact Result.map_eq_error
  rw [hresult, Result.mapM_eq_error]
  simp only [instantOf_eq_ok, instantOf_eq_error]

theorem unreadable_iff : Unreadable v ↔ ¬∃ t, Writes v t := by
  simp only [← instantOf_eq_ok]
  rw [← Result.exists_error_iff]
  simp only [instantOf_eq_error, exists_and_left, exists_eq, and_true]

/-- Items in another order, with further items that write nothing later than some of them do. -/
theorem maxDatetime_of_perm_append (h : ∀ v ∈ items, ∃ t, Writes v t)
    (hperm : items'.Perm (items ++ extra))
    (hextra : ∀ v ∈ extra, ∃ t, Writes v t ∧ ∃ w ∈ items, ∃ u, Writes w u ∧ t.rank ≤ u.rank) :
    maxDatetime (.arr items') [] = maxDatetime (.arr items) [] := by
  by_cases hne : items = []
  · -- nothing can be added to an empty array
    subst hne
    cases extra with
    | nil => rw [List.perm_nil.mp hperm]
    | cons v extra =>
      obtain ⟨-, -, w, hw, -⟩ := hextra v List.mem_cons_self
      cases hw
  · obtain ⟨t, ht⟩ := exists_latest_of_writes hne h
    have ht' : Latest items' t := by
      refine ht.of_subset (fun v hv => hperm.symm.subset (List.mem_append_left _ hv)) fun v hv => ?_
      rcases List.mem_append.mp (hperm.subset hv) with hv | hv
      · exact ht.le v hv
      · obtain ⟨u, hvu, w, hw, u', hwu', hle⟩ := hextra v hv
        obtain ⟨u'', hwu'', hle'⟩ := ht.le w hw
        rw [← hwu'.unique hwu''] at hle'
        exact ⟨u, hvu, Int.le_trans hle hle'⟩
    rw [maxDatetime_of_latest ht, maxDatetime_of_latest ht']

/-- **What is found is the latest of the instants that are written.**  An array fails exactly if an
item is no text or is taken by no reader, and the first of these is told.  Else an empty array gives
null, and any other the latest of the instants that its items write.  So neither the order of the
items nor further items that write no later instant, such as copies, make a difference. -/
theorem maxDatetime_latest (items : List Json) :
    ((∃ err, (maxDatetime (.arr items) []).result = .error err) ↔ ∃ v ∈ items, Unreadable v) ∧
    (∀ err, (maxDatetime (.arr items) []).result = .error err ↔
      ∃ before v after, items = before ++ v :: after ∧ (∀ w ∈ before, ∃ t, Writes w t) ∧
        Unreadable v ∧
        err = .failed "max_datetime_array_value" s!"cannot parse {v.compact} as a date") ∧
    (∀ w, (maxDatetime (.arr items) []).result = .ok w ↔
      items = [] ∧ w = .null ∨ ∃ t, Latest items t ∧ w = .str t.text) ∧
    ((∀ v ∈ items, ∃ t, Writes v t) →
      (∀ items', items'.Perm items →
        maxDatetime (.arr items') [] = maxDatetime (.arr items) []) ∧
      ∀ extra items', items'.Perm (items ++ extra) →
        (∀ v ∈ extra, ∃ t, Writes v t ∧ ∃ w ∈ items, ∃ u, Writes w u ∧ t.rank ≤ u.rank) →
        maxDatetime (.arr items') [] = maxDatetime (.arr items) []) := by
  refine ⟨?_, fun err => maxDatetime_eq_error, fun w => maxDatetime_eq_ok, fun h => ?_⟩
  · rw [Result.exists_error_iff, exists_maxDatetime_iff]
    simp only [unreadable_iff, not_forall, exists_prop]
  · refine ⟨fun items' hperm => ?_, fun extra items' => maxDatetime_of_perm_append h⟩
    have hnothing : items'.Perm (items ++ []) := by rwa [List.append_nil]
    exact maxDatetime_of_perm_append h hnothing (by simp)

/-- Dates in several forms; compared as texts, the first would be the greatest. -/
def visits : List Json :=
  [.str "31 Dec 2023", .str "2024-01-02T10:00:00+09:00", .str "2023/12/31 23:59:59"]

/-- The latest of the visits in the form of mail, and an earlier one. -/
def furtherVisits : List Json := [.str "Tue, 2 Jan 2024 01:00:00 GMT", .str "2024-01-01"]

/-- The instant of the latest visit. -/
def latestVisit : Instant := ⟨⟨2024, 1, 2⟩, 3600, 0⟩

theorem latest_visits : Latest visits latestVisit := by
  have hfirst : Writes (.str "31 Dec 2023") ⟨⟨2023, 12, 31⟩, 0, 0⟩ :=
    read?_eq_some_iff.mp (by decide +kernel)
  have hsecond : Writes (.str "2024-01-02T10:00:00+09:00") latestVisit :=
    read?_eq_some_iff.mp (by decide +kernel)
  have hthird : Writes (.str "2023/12/31 23:59:59") ⟨⟨2023, 12, 31⟩, 86399, 0⟩ :=
    read?_eq_some_iff.mp (by decide +kernel)
  refine ⟨⟨_, by simp [visits], hsecond⟩, ?_⟩
  simp only [visits, List.forall_mem_cons]
  exact ⟨⟨_, hfirst, by decide⟩, ⟨_, hsecond, by decide⟩, ⟨_, hthird, by decide⟩, by simp⟩

theorem visits_latest :
    (maxDatetime (.arr visits) []).result = .ok (.str "2024-01-02T01:00:00+00:00") ∧
    maxDatetime (.arr visits.reverse) [] = maxDatetime (.arr visits) [] ∧
    maxDatetime (.arr (furtherVisits ++ visits)) [] = maxDatetime (.arr visits) [] ∧
    ∃ err, (maxDatetime (.arr (visits ++ [.str "soon", .null])) []).result = .error err := by
  obtain ⟨-, -, hresult, hmix⟩ := maxDatetime_latest visits
  obtain ⟨hperm, hextra⟩ := hmix latest_visits.writes
  have hmail : Writes (.str "Tue, 2 Jan 2024 01:00:00 GMT") latestVisit :=
    read?_eq_some_iff.mp (by decide +kernel)
  have hearlier : Writes (.str "2024-01-01") ⟨⟨2024, 1, 1⟩, 0, 0⟩ :=
    read?_eq_some_iff.mp (by decide +kernel)
  have hfurther : ∀ v ∈ furtherVisits, ∃ t, Writes v t ∧
      ∃ w ∈ visits, ∃ u, Writes w u ∧ t.rank ≤ u.rank := by
    obtain ⟨w, hw, hlatest⟩ := latest_visits.written
    simp only [furtherVisits, List.forall_mem_cons]
    exact ⟨⟨_, hmail, w, hw, _, hlatest, by decide⟩, ⟨_, hearlier, w, hw, _, hlatest, by decide⟩,
      by simp⟩
  have htext : latestVisit.text = "2024-01-02T01:00:00+00:00" := by decide +kernel
  exact ⟨(hresult _).mpr (.inr ⟨latestVisit, latest_visits, by rw [htext]⟩),
    hperm _ (List.reverse_perm _), hextra furtherVisits _ List.perm_append_comm hfurther,
    (maxDatetime_latest _).1.mpr ⟨.null, by simp, by simp [Unreadable]⟩⟩

end Reshape.Transform
