/-
# What conditions leave of a value

Filtering candidates through specs, said of its results.  A spec has a verdict on a candidate
(`Verdict`): the predicate that it names, asked of what it looks at (`LooksAt`).  It selects
the candidates on which its verdict is positive (`Selects`), and what it contributes follows
from what it selects.

Main statements: `result_apply_eq_ok` for any value, and `result_apply_single` for a value that
is no array and specs without an output.  There the candidate comes out once for every spec
that holds on it (`survivor`).
-/
import Reshape.Condition
import Reshape.Proofs.Sequence

namespace Reshape.ConditionSet

open Reporting

variable {cs : ConditionSet} {spec : ConditionSpec} {c : Json}

/-! ## 1. Verdicts -/

/-- What a spec looks at in a candidate: the candidate itself, or what its field leads to, with
null where that is nothing. -/
inductive LooksAt (spec : ConditionSpec) (c : Json) : Json → Prop
  | itself (h : spec.field = none) : LooksAt spec c c
  | field {path : Path} {found : Option Json} (h : spec.field = some path)
      (hr : (path.resolve c).result = .ok found) : LooksAt spec c (found.getD .null)

theorem result_subject_eq_ok {s : Json} :
    (subject spec c).result = .ok s ↔ LooksAt spec c s := by
  cases hf : spec.field with
  | none =>
    rw [subject, hf]
    constructor
    · intro h
      cases h
      exact .itself hf
    · rintro (h | ⟨h, -⟩)
      · rfl
      · rw [hf] at h
        cases h
  | some path =>
    rw [subject, hf]
    constructor
    · intro h
      obtain ⟨found, hr, h⟩ := result_bind_eq_ok.mp h
      cases h
      exact .field hf (Result.mapError_eq_ok.mp hr)
    · rintro (h | ⟨h, hr⟩)
      · rw [hf] at h
        cases h
      · rw [hf] at h
        cases h
        exact result_bind_eq_ok.mpr ⟨_, Result.mapError_eq_ok.mpr hr, rfl⟩

/-- The verdict of a spec on a candidate: whether the predicate of its condition holds of what
it looks at. -/
inductive Verdict (cs : ConditionSet) (spec : ConditionSpec) (c : Json) : Bool → Prop
  | of {p : Predicate} {s : Json} (hp : Entries.get? spec.name cs.entries = some p)
      (hs : LooksAt spec c s) : Verdict cs spec c (p s)

/-- No spec has two verdicts on one candidate. -/
theorem Verdict.unique {b b' : Bool} (h : Verdict cs spec c b) (h' : Verdict cs spec c b') :
    b = b' := by
  obtain ⟨hp, hs⟩ := h
  obtain ⟨hp', hs'⟩ := h'
  have hsame := Except.ok.inj <|
    (result_subject_eq_ok.mpr hs).symm.trans (result_subject_eq_ok.mpr hs')
  rw [Option.some.inj (hp.symm.trans hp'), hsame]

/-! ## 2. Selections -/

/-- What a spec selects from candidates: those with a positive verdict, in order. -/
inductive Selects (cs : ConditionSet) (spec : ConditionSpec) : List Json → List Json → Prop
  | nil : Selects cs spec [] []
  | keep {c : Json} {candidates matched : List Json} (h : Verdict cs spec c true)
      (hrest : Selects cs spec candidates matched) :
      Selects cs spec (c :: candidates) (c :: matched)
  | drop {c : Json} {candidates matched : List Json} (h : Verdict cs spec c false)
      (hrest : Selects cs spec candidates matched) : Selects cs spec (c :: candidates) matched

theorem select_cons (p : Predicate) (spec : ConditionSpec) (c : Json) (candidates : List Json) :
    select p spec (c :: candidates) = (do
      let s ← subject spec c
      let matched ← select p spec candidates
      pure (if p s then c :: matched else matched)) := by
  rw [select, select, List.mapM_cons]
  simp only [bind_assoc, pure_bind]
  congr
  funext s
  congr
  funext marks
  cases p s <;> rfl

theorem result_select_eq_ok {p : Predicate} (hp : Entries.get? spec.name cs.entries = some p)
    {candidates matched : List Json} :
    (select p spec candidates).result = .ok matched ↔ Selects cs spec candidates matched := by
  induction candidates generalizing matched with
  | nil =>
    constructor
    · intro h
      cases h
      exact .nil
    · intro h
      cases h
      rfl
  | cons c candidates ih =>
    rw [select_cons]
    constructor
    · intro h
      obtain ⟨s, hs, h⟩ := result_bind_eq_ok.mp h
      obtain ⟨rest, hr, h⟩ := result_bind_eq_ok.mp h
      have hv : Verdict cs spec c (p s) := .of hp (result_subject_eq_ok.mp hs)
      cases hps : p s <;> rw [hps] at h hv <;> cases h
      · exact .drop hv (ih.mp hr)
      · exact .keep hv (ih.mp hr)
    · intro h
      have hgo : ∀ {b rest}, Verdict cs spec c b → Selects cs spec candidates rest →
          (do let s ← subject spec c
              let matched ← select p spec candidates
              pure (if p s then c :: matched else matched)).result =
            .ok (if b then c :: rest else rest) := by
        rintro b rest ⟨hp', hs⟩ hr
        rw [hp, Option.some.injEq] at hp'
        subst hp'
        exact result_bind_eq_ok.mpr ⟨_, result_subject_eq_ok.mpr hs,
          result_bind_eq_ok.mpr ⟨_, ih.mpr hr, rfl⟩⟩
      cases h with
      | keep hv hr => exact hgo hv hr
      | drop hv hr => exact hgo hv hr

/-- A spec contributes according to what it selects. -/
theorem result_applySpec_eq_ok {value : Json} {o : Option Json} :
    (cs.applySpec value spec).result = .ok o ↔
      Entries.contains spec.name cs.entries = true ∧
      ∃ matched, Selects cs spec value.candidates matched ∧
        o = contribution value.isMany spec matched := by
  rw [applySpec, Entries.contains]
  cases hp : Entries.get? spec.name cs.entries with
  | none => simp
  | some p =>
    constructor
    · intro h
      obtain ⟨matched, hm, h⟩ := result_bind_eq_ok.mp h
      cases h
      exact ⟨rfl, matched, (result_select_eq_ok hp).mp hm, rfl⟩
    · rintro ⟨-, matched, hm, rfl⟩
      exact result_bind_eq_ok.mpr ⟨matched, (result_select_eq_ok hp).mpr hm, rfl⟩

/-- **Filtering is one selection for each spec**, in order; what they contribute is put
together. -/
theorem result_apply_eq_ok {value : Json} {specs : List ConditionSpec} {o : Option Json} :
    (cs.apply value specs).result = .ok o ↔
      (∀ spec ∈ specs, Entries.contains spec.name cs.entries = true) ∧
      ∃ selections, List.Forall₂ (fun spec => Selects cs spec value.candidates) specs selections ∧
        o = combine ((List.zipWith (contribution value.isMany) specs selections).filterMap id) := by
  have hspecs : ∀ marks, (specs.mapM (cs.applySpec value)).result = .ok marks ↔
      (∀ spec ∈ specs, Entries.contains spec.name cs.entries = true) ∧
      ∃ selections, List.Forall₂ (fun spec => Selects cs spec value.candidates) specs selections ∧
        marks = List.zipWith (contribution value.isMany) specs selections := by
    intro marks
    rw [result_mapM_eq_ok, ← Result.forall₂_zipWith]
    simp only [result_applySpec_eq_ok, List.forall₂_and_left]
  rw [apply, result_bind_eq_ok]
  constructor
  · rintro ⟨marks, hm, h⟩
    obtain ⟨hp, selections, hs, rfl⟩ := (hspecs marks).mp hm
    cases h
    exact ⟨hp, selections, hs, rfl⟩
  · rintro ⟨hp, selections, hs, rfl⟩
    exact ⟨_, (hspecs _).mpr ⟨hp, selections, hs, rfl⟩, rfl⟩

/-! ## 3. A single candidate -/

/-- What is left of a candidate on which `k` specs hold: a copy for each of them. -/
def survivor (c : Json) : Nat → Option Json
  | 0 => none
  | 1 => some c
  | k => some (.arr (List.replicate k c))

/-- Of the specs, `k` hold on a candidate. -/
def Holds (cs : ConditionSet) (specs : List ConditionSpec) (c : Json) (k : Nat) : Prop :=
  ∃ verdicts, List.Forall₂ (fun spec => Verdict cs spec c) specs verdicts ∧
    k = verdicts.count true

theorem Holds.unique {specs : List ConditionSpec} {k k' : Nat} (h : Holds cs specs c k)
    (h' : Holds cs specs c k') : k = k' := by
  obtain ⟨verdicts, hv, rfl⟩ := h
  obtain ⟨verdicts', hv', rfl⟩ := h'
  have hone : Relator.RightUnique fun spec => Verdict cs spec c := fun _ _ _ => Verdict.unique
  rw [hone.forall₂ hv hv']

theorem candidates_of_not_many {v : Json} (h : v.isMany = false) : v.candidates = [v] := by
  cases v with
  | arr => cases h
  | _ => rfl

theorem result_applySpec_single {value : Json} (hv : value.isMany = false)
    (ho : spec.output = none) {o : Option Json} :
    (cs.applySpec value spec).result = .ok o ↔
      ∃ b, Verdict cs spec value b ∧ o = if b then some value else none := by
  rw [result_applySpec_eq_ok, candidates_of_not_many hv, hv]
  constructor
  · rintro ⟨-, matched, hm, rfl⟩
    cases hm with
    | keep h hrest =>
      cases hrest
      exact ⟨true, h, by simp [contribution, ho, Json.collapse]⟩
    | drop h hrest =>
      cases hrest
      exact ⟨false, h, rfl⟩
  · rintro ⟨b, h, rfl⟩
    have hp : Entries.contains spec.name cs.entries = true := by
      obtain ⟨hp, -⟩ := h
      rw [Entries.contains, hp]
      rfl
    cases b with
    | true => exact ⟨hp, [value], .keep h .nil, by simp [contribution, ho, Json.collapse]⟩
    | false => exact ⟨hp, [], .drop h .nil, rfl⟩

theorem combine_replicate (c : Json) (k : Nat) : combine (List.replicate k c) = survivor c k :=
  match k with
  | 0 => rfl
  | 1 => rfl
  | _ + 2 => rfl

/-- The marks of a candidate are as many copies of it as there are positive verdicts. -/
theorem marks_eq_replicate {R : ConditionSpec → Bool → Prop} {specs : List ConditionSpec}
    {verdicts : List Bool} (h : List.Forall₂ R specs verdicts) (c : Json) :
    (List.zipWith (fun _ b => if b then some c else none) specs verdicts).filterMap id =
      List.replicate (verdicts.count true) c := by
  induction h with
  | nil => rfl
  | @cons _ b _ _ _ _ ih =>
    cases b with
    | true => rw [List.count_cons_self, List.replicate_succ, ← ih]; rfl
    | false => exact ih

/-- **A candidate comes out once for each spec that holds on it.** -/
theorem result_apply_single {specs : List ConditionSpec} {value : Json}
    (hv : value.isMany = false) (ho : ∀ spec ∈ specs, spec.output = none) {o : Option Json} :
    (cs.apply value specs).result = .ok o ↔
      ∃ k, Holds cs specs value k ∧ o = survivor value k := by
  have hspecs : ∀ marks, (specs.mapM (cs.applySpec value)).result = .ok marks ↔
      ∃ verdicts, List.Forall₂ (fun spec => Verdict cs spec value) specs verdicts ∧
        marks = List.zipWith (fun _ b => if b then some value else none) specs verdicts := by
    intro marks
    have hall : ∀ R : ConditionSpec → Option Json → Prop, List.Forall₂ R specs marks ↔
        List.Forall₂ (fun spec o => spec.output = none ∧ R spec o) specs marks := by
      intro R
      rw [List.forall₂_and_left, and_iff_right ho]
    rw [result_mapM_eq_ok, ← Result.forall₂_zipWith, hall,
      hall fun spec o => ∃ b, Verdict cs spec value b ∧ o = if b then some value else none]
    simp only [and_congr_right fun h => result_applySpec_single hv h]
  rw [apply, result_bind_eq_ok]
  constructor
  · rintro ⟨marks, hm, h⟩
    obtain ⟨verdicts, hs, rfl⟩ := (hspecs marks).mp hm
    rw [marks_eq_replicate hs, combine_replicate] at h
    cases h
    exact ⟨_, ⟨verdicts, hs, rfl⟩, rfl⟩
  · rintro ⟨k, ⟨verdicts, hs, rfl⟩, rfl⟩
    refine ⟨_, (hspecs _).mpr ⟨verdicts, hs, rfl⟩, ?_⟩
    rw [marks_eq_replicate hs, combine_replicate]
    rfl

end Reshape.ConditionSet
