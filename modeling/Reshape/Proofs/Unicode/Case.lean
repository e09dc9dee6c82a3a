/-
# Lower case is final

Every character in the lower case of a text is its own lower case (`isLower_of_mem_lower`), so
writing a text in lower case once more changes nothing.

The characters that have another lower case form runs (`movingRuns`).  That no run reaches into
a run is decided for pairs of runs, by their ends and steps and not by their characters
(`CaseRun.clears`).

Main statement: `lowercase_lowercase`.
-/
import Reshape.Unicode.Case

namespace Reshape.Unicode

/-! ## 1. Runs that reach into runs -/

/-- The runs of all characters that have another lower case; where that is several characters,
the distance says nothing. -/
def movingRuns : List CaseRun := lowerRuns ++ lowerStrings.map fun e => ⟨e.1, e.1, 1, 0⟩

/-- The code point to which a run takes a code point. -/
def CaseRun.target (r : CaseRun) (n : Nat) : Nat := ((n : Int) + r.delta).toNat

/-- Does a run reach no code point of another?  It ends before the other, starts behind it or
passes its code points by, in the same steps. -/
def CaseRun.clears (r q : CaseRun) : Bool :=
  let low := r.target r.first
  let step := if r.first = r.last then 0 else r.step
  (r.target r.last).blt q.first || q.last.blt low ||
    (step % q.step).beq 0 && !(low % q.step).beq (q.first % q.step)

variable {r q : CaseRun} {n : Nat} {c d : Char}

theorem holds_iff : r.holds n = true ↔ r.first ≤ n ∧ n ≤ r.last ∧ (n - r.first) % r.step = 0 := by
  simp [CaseRun.holds, and_assoc]

theorem not_holds_of_clears (h0 : 0 ≤ (r.first : Int) + r.delta) (h : r.clears q = true)
    (hn : r.holds n = true) : q.holds (r.target n) = false := by
  obtain ⟨hfirst, hlast, hstep⟩ := holds_iff.mp hn
  have htarget : r.target n = r.target r.first + (n - r.first) := by
    unfold CaseRun.target; omega
  have hend : r.target n ≤ r.target r.last := by
    unfold CaseRun.target; omega
  refine Bool.eq_false_iff.mpr fun hq => ?_
  obtain ⟨hqfirst, hqlast, hqstep⟩ := holds_iff.mp hq
  simp only [CaseRun.clears, Bool.or_eq_true, Bool.and_eq_true, Nat.blt_eq, Nat.beq_eq,
    Bool.not_eq_true'] at h
  rcases h with (hbefore | hbehind) | ⟨hsame, hpast⟩
  · omega
  · omega
  · -- the target lies as far from the start of `q` as the start of what `r` reaches
    have hdvd : q.step ∣ n - r.first := by
      by_cases he : r.first = r.last
      · have hzero : n - r.first = 0 := by omega
        rw [hzero]
        exact Nat.dvd_zero q.step
      · rw [if_neg he] at hsame
        exact Nat.dvd_trans (Nat.dvd_of_mod_eq_zero hsame) (Nat.dvd_of_mod_eq_zero hstep)
    refine Nat.ne_of_beq_eq_false hpast ?_
    calc r.target r.first % q.step
      _ = (r.target r.first + (n - r.first)) % q.step := by
        obtain ⟨k, hk⟩ := hdvd
        rw [hk, Nat.add_mul_mod_self_left]
      _ = (q.first + (r.target n - q.first)) % q.step := by
        rw [← htarget]
        congr 1
        omega
      _ = q.first % q.step := by
        obtain ⟨k, hk⟩ := Nat.dvd_of_mod_eq_zero hqstep
        rw [hk, Nat.add_mul_mod_self_left]

theorem lowerRuns_clear :
    ∀ r ∈ lowerRuns, 0 ≤ (r.first : Int) + r.delta ∧ (movingRuns.all r.clears) = true := by
  decide +kernel

/-! ## 2. Characters that stay -/

/-- A character that no run moves. -/
def IsLower (c : Char) : Prop := ∀ q ∈ movingRuns, q.holds c.toNat = false

instance (c : Char) : Decidable (IsLower c) :=
  inferInstanceAs (Decidable (∀ q ∈ movingRuns, q.holds c.toNat = false))

theorem IsLower.ne_sigma (h : IsLower c) : c ≠ 'Σ' := by
  rintro rfl
  exact absurd h (by decide +kernel)

/-- Only the first run has characters of one byte. -/
theorem le_first_of_mem_tail : ∀ q ∈ movingRuns.tail, 128 ≤ q.first := by
  decide +kernel

theorem isLower_ascii_iff (h : c.toNat < 128) : IsLower c ↔ ¬(65 ≤ c.toNat ∧ c.toNat ≤ 90) := by
  have hfirst : (⟨65, 90, 1, 32⟩ : CaseRun).holds c.toNat = false ↔
      ¬(65 ≤ c.toNat ∧ c.toNat ≤ 90) := by
    rw [← Bool.not_eq_true, holds_iff]
    simp [Nat.mod_one]
  constructor
  · intro hc
    exact hfirst.mp (hc _ List.mem_cons_self)
  · intro hc q hq
    rcases List.mem_cons.mp hq with rfl | hq
    · exact hfirst.mpr hc
    · have hle := le_first_of_mem_tail q hq
      refine Bool.eq_false_iff.mpr fun hheld => ?_
      have := (holds_iff.mp hheld).1
      omega

theorem toLower_ascii : ∀ n < 128, (Char.ofNat n).toLower.toNat < 128 ∧
    ¬(65 ≤ (Char.ofNat n).toLower.toNat ∧ (Char.ofNat n).toLower.toNat ≤ 90) := by
  decide +kernel

theorem toLower_eq_self : ∀ n < 128, ¬(65 ≤ n ∧ n ≤ 90) →
    (Char.ofNat n).toLower = Char.ofNat n := by
  decide +kernel

theorem IsLower.lower_eq (h : IsLower c) : lower c = [c] := by
  by_cases hascii : c.toNat < 128
  · have hstays := toLower_eq_self c.toNat hascii ((isLower_ascii_iff hascii).mp h)
    rw [Char.ofNat_toNat] at hstays
    rw [lower, if_pos hascii, hstays]
  · have hstrings : lowerStrings.find? (fun e => e.1 == c.toNat) = none := by
      rw [List.find?_eq_none]
      intro e he heq
      have hno := h ⟨e.1, e.1, 1, 0⟩
        (List.mem_append_right _ (List.mem_map.mpr ⟨e, he, rfl⟩))
      simp_all [CaseRun.holds]
    have hruns : lowerRuns.find? (fun r => r.holds c.toNat) = none := by
      rw [List.find?_eq_none]
      intro r hr
      rw [h r (List.mem_append_left _ hr)]
      exact Bool.false_ne_true
    rw [lower, if_neg hascii, caseOf, hstrings, hruns]

theorem isLower_ofNat_of_string : ∀ e ∈ lowerStrings, ∀ n ∈ e.2, IsLower (Char.ofNat n) := by
  decide +kernel

theorem isLower_move (hr : r ∈ lowerRuns) (hn : r.holds n = true) : IsLower (r.move n) := by
  obtain ⟨h0, hclear⟩ := lowerRuns_clear r hr
  have hcode : (r.move n).toNat = r.target n ∨ r.move n = Char.ofNat 0 := by
    by_cases hv : (r.target n).isValidChar
    · exact .inl (congrArg Char.toNat (dif_pos hv))
    · exact .inr (dif_neg hv)
  rcases hcode with hcode | hcode
  · intro q hq
    rw [hcode]
    exact not_holds_of_clears h0 (List.all_eq_true.mp hclear q hq) hn
  · rw [hcode]
    decide +kernel

/-- **The lower case of a character stays.** -/
theorem isLower_of_mem_lower (h : d ∈ lower c) : IsLower d := by
  by_cases hascii : c.toNat < 128
  · rw [lower, if_pos hascii, List.mem_singleton] at h
    have hlow := toLower_ascii c.toNat hascii
    rw [Char.ofNat_toNat, ← h] at hlow
    exact (isLower_ascii_iff hlow.1).mpr hlow.2
  · rw [lower, if_neg hascii, caseOf] at h
    split at h
    · next e he =>
      obtain ⟨n, hn, rfl⟩ := List.mem_map.mp h
      exact isLower_ofNat_of_string e (List.mem_of_find?_eq_some he) n hn
    · next hstrings =>
      split at h
      · next r hr =>
        have hheld : r.holds c.toNat = true :=
          List.find?_some (p := fun q : CaseRun => q.holds c.toNat) hr
        rw [List.mem_singleton] at h
        rw [h]
        exact isLower_move (List.mem_of_find?_eq_some hr) hheld
      · next hruns =>
        rw [List.mem_singleton] at h
        subst h
        intro q hq
        rcases List.mem_append.mp hq with hq | hq
        · exact Bool.eq_false_iff.mpr (List.find?_eq_none.mp hruns q hq)
        · obtain ⟨e, he, rfl⟩ := List.mem_map.mp hq
          have hne := List.find?_eq_none.mp hstrings e he
          refine Bool.eq_false_iff.mpr fun hheld => hne ?_
          obtain ⟨hlow, hhigh, -⟩ := holds_iff.mp hheld
          exact beq_iff_eq.mpr (Nat.le_antisymm hlow hhigh)

/-! ## 3. Texts -/

theorem lowerAfter_of_isLower {cs : List Char} (h : ∀ c ∈ cs, IsLower c) (before : List Char) :
    lowerAfter before cs = cs := by
  induction cs generalizing before with
  | nil => rfl
  | cons c cs ih =>
    have hc : IsLower c := h c List.mem_cons_self
    have hcs : lowerAfter (c :: before) cs = cs :=
      ih (fun d hd => h d (List.mem_cons_of_mem c hd)) _
    simp only [lowerAfter, if_neg hc.ne_sigma, hc.lower_eq, hcs]
    rfl

theorem isLower_of_mem_lowerAfter {before cs : List Char} (h : d ∈ lowerAfter before cs) :
    IsLower d := by
  induction cs generalizing before with
  | nil => cases h
  | cons c cs ih =>
    rcases List.mem_append.mp h with h | h
    · split at h
      · rw [List.mem_singleton] at h
        rw [h]
        split <;> decide +kernel
      · exact isLower_of_mem_lower h
    · exact ih h

end Reshape.Unicode

namespace Reshape.Text

/-- **A text in lower case stays as it is.** -/
theorem lowercase_lowercase (s : String) : lowercase (lowercase s) = lowercase s := by
  have h : ∀ c ∈ (lowercase s).toList, Unicode.IsLower c := by
    intro c hc
    rw [lowercase, String.toList_ofList] at hc
    exact Unicode.isLower_of_mem_lowerAfter hc
  rw [lowercase, Unicode.lowerAfter_of_isLower h, String.ofList_toList]

end Reshape.Text
