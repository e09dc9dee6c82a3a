/-
# The greatest of whole numbers

`max_array_value` compares numbers as floating-point numbers and keeps the earlier one of two that
are not told apart.  Of whole numbers it therefore finds the first of those whose nearest
floating-point number is greatest (`FirstHighest`, `greatestNumber_ints`).  Rounding keeps their
order, so nothing greater than the value that is found has another nearest number: a greater whole
number is passed over exactly if it is rounded to the same one and stands behind.  That takes more
than 53 binary digits.

Main statement: `maxValue_words`; `serials_firstKept` are two numbers that are not told apart.
-/
import Mathlib.Data.List.Induction
import Reshape.Proofs.Number.Rounding
import Reshape.Transform.Builtin

namespace Reshape.Transform

open Binary64 (ofInt? signedRank)

variable {m n first : Int} {ns rest : List Int}

/-- A whole number of 64 bits, with a sign or without. -/
def IsWord (n : Int) : Prop := -2 ^ 63 ≤ n ∧ n < 2 ^ 64

instance : DecidablePred IsWord := fun _ => inferInstanceAs (Decidable (_ ∧ _))

/-! ## 1. Comparing whole numbers -/

theorem IsWord.exists_ofInt? (h : IsWord n) :
    ∃ x, ofInt? n = some x ∧ x.order = signedRank n := by
  obtain ⟨hlow, hhigh⟩ := h
  exact Binary64.exists_ofInt? (by omega)

theorem atLeast_int (hm : IsWord m) (hn : IsWord n) :
    atLeast (.int m) (.int n) = decide (signedRank n ≤ signedRank m) := by
  obtain ⟨x, hx, hxm⟩ := hm.exists_ofInt?
  obtain ⟨y, hy, hyn⟩ := hn.exists_ofInt?
  have hmx : (Json.int m).toBinary64? = some x := hx
  have hny : (Json.int n).toBinary64? = some y := hy
  rw [atLeast, hmx, hny]
  dsimp only
  rw [Binary64.le, hxm, hyn]

/-- A list of numbers is `before`, `m` and `after`, and `m` is the first of those that are rounded
to the most. -/
structure FirstHighest (ns before : List Int) (m : Int) (after : List Int) : Prop where
  split : ns = before ++ m :: after
  before : ∀ n ∈ before, signedRank n < signedRank m
  after : ∀ n ∈ after, signedRank n ≤ signedRank m

namespace FirstHighest

variable {before after front back : List Int} {last greatest : Int}

theorem mem (h : FirstHighest ns before m after) : m ∈ ns := by
  rw [h.split]
  simp

theorem le (h : FirstHighest ns before m after) (hn : n ∈ ns) : signedRank n ≤ signedRank m := by
  rw [h.split] at hn
  rcases List.mem_append.mp hn with hn | hn
  · exact Int.le_of_lt (h.before n hn)
  · rcases List.mem_cons.mp hn with rfl | hn
    · exact Int.le_refl _
    · exact h.after n hn

/-- A further number that is not rounded to more changes nothing. -/
theorem keep (h : FirstHighest ns before m after) (hlast : signedRank last ≤ signedRank m) :
    FirstHighest (ns ++ [last]) before m (after ++ [last]) where
  split := by rw [h.split, List.append_assoc, List.cons_append]
  before := h.before
  after := by
    intro n hn
    rcases List.mem_append.mp hn with hn | hn
    · exact h.after n hn
    · rw [List.mem_singleton.mp hn]
      exact hlast

/-- A further number that is rounded to more takes over. -/
theorem replace (h : FirstHighest ns before m after) (hlast : signedRank m < signedRank last) :
    FirstHighest (ns ++ [last]) ns last [] where
  split := rfl
  before := by
    intro n hn
    have := h.le hn
    omega
  after := by simp

end FirstHighest

/-- **The first of the highest is found**, number by number. -/
theorem greatestNumber_ints (h : ∀ n ∈ first :: rest, IsWord n) :
    ∃ before m after, FirstHighest (first :: rest) before m after ∧
      greatestNumber (.int first) (rest.map .int) = .int m := by
  induction rest using List.reverseRecOn with
  | nil => exact ⟨[], first, [], ⟨rfl, by simp, by simp⟩, rfl⟩
  | append_singleton rest last ih =>
    rw [← List.cons_append] at h ⊢
    obtain ⟨hfront, hlast⟩ := List.forall_mem_append.mp h
    obtain ⟨before, m, after, hfirst, hgreatest⟩ := ih hfront
    have hstep : greatestNumber (.int first) ((rest ++ [last]).map .int) =
        if atLeast (.int m) (.int last) then .int m else .int last := by
      rw [← hgreatest, List.map_append]
      exact List.foldl_append
    rw [hstep, atLeast_int (hfront m hfirst.mem) (hlast last (by simp))]
    by_cases hle : signedRank last ≤ signedRank m
    · exact ⟨before, m, after ++ [last], hfirst.keep hle, by simp [hle]⟩
    · exact ⟨first :: rest, last, [], hfirst.replace (Int.not_le.mp hle), by simp [hle]⟩

/-- Whole numbers are all numbers, so they are compared as numbers. -/
theorem maxValue_ints (first : Int) (rest : List Int) :
    maxValue (.arr ((first :: rest).map .int)) [] =
      pure (greatestNumber (.int first) (rest.map .int)) := by
  have hall : ((first :: rest).map Json.int).all Json.isNumber = true := by
    rw [List.all_map]
    simp [Function.comp_def, Json.isNumber]
  rw [List.map_cons] at hall ⊢
  unfold maxValue nullary
  dsimp only
  rw [if_pos hall]
  rfl

/-! ## 2. What rounding hides -/

/-- Numbers of which the greater is not rounded to more are rounded to the same. -/
theorem ofInt?_eq_of_lt (h : m < n) (hle : signedRank n ≤ signedRank m) : ofInt? n = ofInt? m :=
  Binary64.ofInt?_congr (Int.le_antisymm hle (Binary64.signedRank_mono (Int.le_of_lt h)))

/-- Numbers that rounding does not tell apart have more than 53 binary digits. -/
theorem large_of_not_told_apart (h : m < n) (hle : signedRank n ≤ signedRank m) :
    2 ^ 53 ≤ m.natAbs ∧ 2 ^ 53 ≤ n.natAbs := by
  by_contra hsmall
  have hlt := Binary64.signedRank_lt h (by omega)
  omega

theorem lt_of_signedRank_lt (h : signedRank m < signedRank n) : m < n := by
  by_contra hle
  have := Binary64.signedRank_mono (Int.not_lt.mp hle)
  omega

theorem ofInt?_ne_of_signedRank_lt (hm : IsWord m) (hn : IsWord n)
    (h : signedRank m < signedRank n) : ofInt? m ≠ ofInt? n := by
  obtain ⟨x, hx, hxm⟩ := hm.exists_ofInt?
  obtain ⟨y, hy, hyn⟩ := hn.exists_ofInt?
  intro heq
  rw [hx, hy] at heq
  cases heq
  omega

/-- Of two items at which a list is split, each stands before the other or they are one. -/
theorem split_or_mem {α : Type} {xs ys us vs : List α} {x u : α}
    (h : xs ++ x :: ys = us ++ u :: vs) : us = xs ∧ u = x ∨ x ∈ us ∨ u ∈ xs := by
  rcases List.append_eq_append_iff.mp h with ⟨mid, rfl, hmid⟩ | ⟨mid, rfl, hmid⟩
  · cases mid with
    | nil =>
      obtain ⟨rfl, -⟩ := List.cons.inj hmid
      exact .inl ⟨List.append_nil xs, rfl⟩
    | cons y mid =>
      obtain ⟨rfl, -⟩ := List.cons.inj hmid
      exact .inr (.inl (by simp))
  · cases mid with
    | nil =>
      obtain ⟨rfl, -⟩ := List.cons.inj hmid
      exact .inl ⟨(List.append_nil us).symm, rfl⟩
    | cons y mid =>
      obtain ⟨rfl, -⟩ := List.cons.inj hmid
      exact .inr (.inr (by simp))

/-! ## 3. The greatest item -/

namespace FirstHighest

variable {before after front back : List Int} {greatest : Int}

/-- Numbers of up to 2^53 are told apart, so the highest is the greatest. -/
theorem greatest_of_small (h : FirstHighest ns before m after)
    (hsmall : ∀ n ∈ ns, n.natAbs ≤ 2 ^ 53) (hn : n ∈ ns) : n ≤ m := by
  by_contra hlt
  have hrank := Binary64.signedRank_lt_of_le (Int.not_le.mp hlt) (hsmall m h.mem) (hsmall n hn)
  exact absurd hrank (Int.not_lt.mpr (h.le hn))

/-- The highest is the greatest exactly if no number in front of the greatest is rounded to the
same. -/
theorem eq_greatest_iff (h : FirstHighest ns before m after) (hw : ∀ n ∈ ns, IsWord n)
    (hsplit : ns = front ++ greatest :: back) (hfirst : greatest ∉ front)
    (hall : ∀ n ∈ ns, n ≤ greatest) :
    m = greatest ↔ ∀ n ∈ front, ofInt? n ≠ ofInt? greatest := by
  have hmem : greatest ∈ ns := by
    rw [hsplit]
    simp
  rcases split_or_mem (h.split.symm.trans hsplit) with ⟨rfl, rfl⟩ | hfront | hearly
  · refine ⟨fun _ n hn => ?_, fun _ => rfl⟩
    have hword : IsWord n := hw n (by rw [hsplit]; simp [hn])
    exact ofInt?_ne_of_signedRank_lt hword (hw greatest hmem) (h.before n hn)
  · -- the highest stands in front, and rounding does not tell the greatest from it
    have hne : m ≠ greatest := fun he => hfirst (he ▸ hfront)
    have hle : m ≤ greatest := hall m h.mem
    have hlt : m < greatest := by omega
    refine ⟨fun he => absurd he hne, fun hapart => ?_⟩
    exact absurd (ofInt?_eq_of_lt hlt (h.le hmem)).symm (hapart m hfront)
  · -- the greatest cannot stand before the highest
    have := lt_of_signedRank_lt (h.before greatest hearly)
    have := hall m h.mem
    omega

end FirstHighest

/-- **Of whole numbers the greatest is found, as far as rounding tells.**  The value that is found
is greater than all before it, and no less than all behind it that are not rounded to the same
floating-point number; among numbers of up to 2^53 it is the greatest.  In general the greatest
number is found exactly if no smaller one that is rounded to the same stands before it. -/
theorem maxValue_words (hne : ns ≠ []) (hw : ∀ n ∈ ns, IsWord n) :
    ∃ before m after, ns = before ++ m :: after ∧
      maxValue (.arr (ns.map .int)) [] = pure (.int m) ∧
      (∀ n ∈ before, n < m ∧ ofInt? n ≠ ofInt? m) ∧
      (∀ n ∈ after, n ≤ m ∨
        ofInt? n = ofInt? m ∧ 2 ^ 53 ≤ m.natAbs ∧ 2 ^ 53 ≤ n.natAbs) ∧
      ((∀ n ∈ ns, n.natAbs ≤ 2 ^ 53) → ∀ n ∈ ns, n ≤ m) ∧
      ∀ front greatest back, ns = front ++ greatest :: back → greatest ∉ front →
        (∀ n ∈ ns, n ≤ greatest) → (m = greatest ↔ ∀ n ∈ front, ofInt? n ≠ ofInt? greatest) := by
  obtain ⟨first, rest, rfl⟩ := List.exists_cons_of_ne_nil hne
  obtain ⟨before, m, after, hfirst, hgreatest⟩ := greatestNumber_ints hw
  refine ⟨before, m, after, hfirst.split, ?_, ?_, ?_, ?_, ?_⟩
  · rw [maxValue_ints, hgreatest]
  · intro n hn
    have hword : IsWord n := hw n (by rw [hfirst.split]; simp [hn])
    have hrank := hfirst.before n hn
    exact ⟨lt_of_signedRank_lt hrank,
      ofInt?_ne_of_signedRank_lt hword (hw m hfirst.mem) hrank⟩
  · intro n hn
    rcases Int.lt_or_le m n with hlt | hle
    · have hrank := hfirst.after n hn
      exact .inr ⟨ofInt?_eq_of_lt hlt hrank, large_of_not_told_apart hlt hrank⟩
    · exact .inl hle
  · intro hsmall n hn
    exact hfirst.greatest_of_small hsmall hn
  · intro front greatest back hsplit hnew hall
    exact hfirst.eq_greatest_iff hw hsplit hnew hall

/-! ## 4. Serial numbers -/

/-- Small numbers and one beyond 2^53. -/
def serials : List Int := [3, 7, 9007199254740993, 5]

theorem serials_greatest :
    serials ≠ [] ∧ (∀ n ∈ serials, IsWord n) ∧
    (∀ n ∈ [3, 7], ofInt? n ≠ ofInt? 9007199254740993) ∧
    maxValue (.arr (serials.map .int)) [] = pure (.int 9007199254740993) := by
  have hne : serials ≠ [] := by decide
  have hw : ∀ n ∈ serials, IsWord n := by decide
  have hapart : ∀ n ∈ [3, 7], ofInt? n ≠ ofInt? 9007199254740993 := by decide +kernel
  obtain ⟨before, m, after, -, hfound, -, -, -, hsharp⟩ := maxValue_words hne hw
  have hm : m = 9007199254740993 :=
    (hsharp [3, 7] 9007199254740993 [5] rfl (by decide) (by decide)).mpr hapart
  exact ⟨hne, hw, hapart, by rw [hfound, hm]⟩

/-- **Two serial numbers that are not told apart.**  The first one is found, though the second is
greater. -/
theorem serials_firstKept :
    ¬∀ ns : List Int, ns ≠ [] → (∀ n ∈ ns, IsWord n) →
      ∃ m ∈ ns, maxValue (.arr (ns.map .int)) [] = pure (.int m) ∧ ∀ n ∈ ns, n ≤ m := by
  intro h
  obtain ⟨m, -, hfound, hgreatest⟩ :=
    h [9007199254740992, 9007199254740993] (by decide) (by decide)
  have hkept : (maxValue (.arr [.int 9007199254740992, .int 9007199254740993]) []).result =
      .ok (.int 9007199254740992) := by
    decide +kernel
  have hm : m = 9007199254740992 := by
    rw [List.map_cons, List.map_cons, List.map_nil] at hfound
    rw [hfound] at hkept
    cases hkept
    rfl
  have := hgreatest 9007199254740993 (by decide)
  omega

end Reshape.Transform
