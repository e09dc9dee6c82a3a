/-
# Rounding whole numbers

A whole number `n` is `n` times 2^1074 units, and the number nearest to it is found by its rank
among all numbers of units (`rankOfUnits`): the units are counted in the largest power of two that
leaves at least 53 binary digits, and rounded there.

Rounding keeps the order of whole numbers, but not strictly (`signedRank_mono`): two of them may
come to the same number.  They do not if one of them has at most 53 binary digits
(`signedRank_lt`); such a number is itself among the numbers, and the next one is at least a unit
of it away.
-/
import Mathlib.Algebra.Order.Ring.Int
import Reshape.Number.Binary64

namespace Reshape.Binary64

variable {a b d m n : Nat}

/-! ## 1. Nearest quotients -/

theorem div_le_divNearestEven (a d : Nat) : a / d ≤ divNearestEven a d := by
  unfold divNearestEven
  dsimp only
  split
  · omega
  · split <;> omega

theorem divNearestEven_le (a d : Nat) : divNearestEven a d ≤ a / d + 1 := by
  unfold divNearestEven
  dsimp only
  split
  · omega
  · split <;> omega

theorem divNearestEven_mono (h : a ≤ b) : divNearestEven a d ≤ divNearestEven b d := by
  have hq : a / d ≤ b / d := Nat.div_le_div_right h
  rcases Nat.lt_or_eq_of_le hq with hlt | heq
  · calc
      divNearestEven a d ≤ a / d + 1 := divNearestEven_le a d
      _ ≤ b / d := hlt
      _ ≤ divNearestEven b d := div_le_divNearestEven b d
  · -- over one quotient the remainders decide
    have hr : a % d ≤ b % d := by
      have ha := Nat.div_add_mod a d
      have hb := Nat.div_add_mod b d
      rw [heq] at ha
      omega
    unfold divNearestEven
    dsimp only
    rw [heq]
    split_ifs <;> omega

/-- A multiple is its own quotient. -/
theorem divNearestEven_of_dvd (hd : 0 < d) (h : d ∣ a) : divNearestEven a d = a / d := by
  have hr : a % d = 0 := Nat.mod_eq_zero_of_dvd h
  simp [divNearestEven, hr, hd]

/-! ## 2. Lengths -/

theorem lt_two_pow_bitLength (a : Nat) : a < 2 ^ bitLength a := by
  unfold bitLength
  split
  · next h => simp [h]
  · exact Nat.lt_log2_self

theorem two_pow_le_of_lt_bitLength {k : Nat} (h : k < bitLength a) : 2 ^ k ≤ a := by
  unfold bitLength at h
  split at h
  · omega
  · next ha =>
    calc
      2 ^ k ≤ 2 ^ a.log2 := Nat.pow_le_pow_right (by decide) (by omega)
      _ ≤ a := Nat.log2_self_le ha

theorem bitLength_le_of_lt {k : Nat} (h : a < 2 ^ k) : bitLength a ≤ k := by
  by_contra hk
  have := two_pow_le_of_lt_bitLength (Nat.lt_of_not_le hk)
  omega

theorem bitLength_mono (h : a ≤ b) : bitLength a ≤ bitLength b :=
  bitLength_le_of_lt (Nat.lt_of_le_of_lt h (lt_two_pow_bitLength b))

/-! ## 3. Ranks of units -/

/-- How many times the unit is doubled to count `a` units in. -/
def scaleOf (a : Nat) : Nat := bitLength a - 53

/-- The rank nearest to `a` units. -/
def rankOfUnits (a : Nat) : Nat := scaleOf a * binade + divNearestEven a (2 ^ scaleOf a)

/-- Whole numbers are multiples of one power of two of units. -/
theorem exists_units : ∃ k, ∀ n, rankOfRatio n 1 = rankOfUnits (n * 2 ^ k) := by
  refine ⟨1074, fun n => ?_⟩
  unfold rankOfRatio
  dsimp only
  rw [Nat.div_one, Nat.one_mul]
  -- under a name of its own the power is not computed
  generalize 1074 = k
  rfl

theorem scaleOf_mono (h : a ≤ b) : scaleOf a ≤ scaleOf b :=
  Nat.sub_le_sub_right (bitLength_mono h) 53

/-- What is counted has at most 53 binary digits. -/
theorem div_scaleOf_lt (a : Nat) : a / 2 ^ scaleOf a < 2 * binade := by
  have hlen : bitLength a ≤ scaleOf a + 53 := by unfold scaleOf; omega
  have hlt : a < 2 ^ scaleOf a * 2 ^ 53 := by
    rw [← Nat.pow_add]
    exact Nat.lt_of_lt_of_le (lt_two_pow_bitLength a) (Nat.pow_le_pow_right (by decide) hlen)
  exact Nat.div_lt_of_lt_mul hlt

/-- Where the unit is doubled, what is counted has no less. -/
theorem le_div_scaleOf (h : 0 < scaleOf a) : binade ≤ a / 2 ^ scaleOf a := by
  have hlen : scaleOf a + 52 < bitLength a := by unfold scaleOf at h ⊢; omega
  have hle : 2 ^ 52 * 2 ^ scaleOf a ≤ a := by
    rw [← Nat.pow_add, Nat.add_comm]
    exact two_pow_le_of_lt_bitLength hlen
  exact (Nat.le_div_iff_mul_le (Nat.two_pow_pos _)).mpr hle

/-- A larger scale takes up where a smaller one ends. -/
theorem scale_le_rankOfUnits (h : scaleOf a < scaleOf b) :
    scaleOf a * binade + 2 * binade ≤ rankOfUnits b := by
  have hscale : (scaleOf a + 1) * binade ≤ scaleOf b * binade := Nat.mul_le_mul_right binade h
  have hcount : binade ≤ b / 2 ^ scaleOf b := le_div_scaleOf (by omega)
  have hround := div_le_divNearestEven b (2 ^ scaleOf b)
  rw [Nat.succ_mul] at hscale
  unfold rankOfUnits
  omega

theorem rankOfUnits_mono (h : a ≤ b) : rankOfUnits a ≤ rankOfUnits b := by
  rcases Nat.lt_or_eq_of_le (scaleOf_mono h) with hlt | heq
  · have hcount := div_scaleOf_lt a
    have hround := divNearestEven_le a (2 ^ scaleOf a)
    have hnext := scale_le_rankOfUnits hlt
    unfold rankOfUnits at hnext ⊢
    omega
  · unfold rankOfUnits
    rw [heq]
    exact Nat.add_le_add_left (divNearestEven_mono h) _

/-- Units that need no rounding lie below all that is as much as a step of their scale away. -/
theorem rankOfUnits_lt (hd : 2 ^ scaleOf a ∣ a) (h : a + 2 ^ scaleOf a ≤ b) :
    rankOfUnits a < rankOfUnits b := by
  have hpos : 0 < 2 ^ scaleOf a := Nat.two_pow_pos _
  have hexact := divNearestEven_of_dvd hpos hd
  rcases Nat.lt_or_eq_of_le (scaleOf_mono (Nat.le_trans (Nat.le_add_right _ _) h)) with hlt | heq
  · have hcount := div_scaleOf_lt a
    have hnext := scale_le_rankOfUnits hlt
    unfold rankOfUnits at hnext ⊢
    omega
  · have hstep : a / 2 ^ scaleOf a + 1 ≤ b / 2 ^ scaleOf a := by
      rw [← Nat.add_div_right a hpos]
      exact Nat.div_le_div_right h
    have hround := div_le_divNearestEven b (2 ^ scaleOf a)
    unfold rankOfUnits
    rw [← heq, hexact]
    omega

/-! ## 4. Ranks of whole numbers -/

/-- A number of at most 53 binary digits needs no doubling beyond its own unit. -/
theorem scaleOf_mul_two_pow_le {k : Nat} (h : n < 2 ^ 53) : scaleOf (n * 2 ^ k) ≤ k := by
  have hlt : n * 2 ^ k < 2 ^ (53 + k) := by
    rw [Nat.pow_add]
    exact Nat.mul_lt_mul_of_pos_right h (Nat.two_pow_pos k)
  have hlen := bitLength_le_of_lt hlt
  unfold scaleOf
  omega

theorem rankOfRatio_mono (h : m ≤ n) : rankOfRatio m 1 ≤ rankOfRatio n 1 := by
  obtain ⟨k, hk⟩ := exists_units
  rw [hk, hk]
  exact rankOfUnits_mono (Nat.mul_le_mul_right _ h)

theorem rankOfRatio_lt (h : m < n) (hm : m < 2 ^ 53) : rankOfRatio m 1 < rankOfRatio n 1 := by
  obtain ⟨k, hk⟩ := exists_units
  have hscale : scaleOf (m * 2 ^ k) ≤ k := scaleOf_mul_two_pow_le hm
  rw [hk, hk]
  refine rankOfUnits_lt ?_ ?_
  · exact Dvd.dvd.mul_left (Nat.pow_dvd_pow 2 hscale) m
  · calc
      m * 2 ^ k + 2 ^ scaleOf (m * 2 ^ k) ≤ m * 2 ^ k + 2 ^ k :=
        Nat.add_le_add_left (Nat.pow_le_pow_right (by decide) hscale) _
      _ = (m + 1) * 2 ^ k := (Nat.succ_mul m _).symm
      _ ≤ n * 2 ^ k := Nat.mul_le_mul_right _ h

/-- Whole numbers of up to 64 binary digits are not too large. -/
theorem rankOfRatio_lt_rankLimit (h : n ≤ 2 ^ 64) : rankOfRatio n 1 < rankLimit := by
  have hlargest : rankOfRatio (2 ^ 64) 1 < rankLimit := by decide +kernel
  exact Nat.lt_of_le_of_lt (rankOfRatio_mono h) hlargest

/-! ## 5. Whole numbers with a sign -/

/-- The rank nearest to the magnitude of a whole number, with its sign. -/
def signedRank (n : Int) : Int :=
  if n < 0 then -(rankOfRatio n.natAbs 1 : Int) else rankOfRatio n.natAbs 1

/-- **Rounding keeps the order of whole numbers.** -/
theorem signedRank_mono {m n : Int} (h : m ≤ n) : signedRank m ≤ signedRank n := by
  unfold signedRank
  split_ifs with hm hn hn
  · have := rankOfRatio_mono (m := n.natAbs) (n := m.natAbs) (by omega)
    omega
  · omega
  · omega
  · have := rankOfRatio_mono (m := m.natAbs) (n := n.natAbs) (by omega)
    omega

/-- **Whole numbers are kept apart** if one of them has at most 53 binary digits. -/
theorem signedRank_lt {m n : Int} (h : m < n) (hmn : m.natAbs < 2 ^ 53 ∨ n.natAbs < 2 ^ 53) :
    signedRank m < signedRank n := by
  unfold signedRank
  split_ifs with hm hn hn
  · have := rankOfRatio_lt (m := n.natAbs) (n := m.natAbs) (by omega) (by omega)
    omega
  · have := rankOfRatio_lt (m := 0) (n := m.natAbs) (by omega) (by decide)
    omega
  · omega
  · have := rankOfRatio_lt (m := m.natAbs) (n := n.natAbs) (by omega) (by omega)
    omega

/-- So are those of up to 2^53, which stands alone with its negative. -/
theorem signedRank_lt_of_le {m n : Int} (h : m < n) (hm : m.natAbs ≤ 2 ^ 53)
    (hn : n.natAbs ≤ 2 ^ 53) : signedRank m < signedRank n := by
  by_cases hmn : m.natAbs < 2 ^ 53 ∨ n.natAbs < 2 ^ 53
  · exact signedRank_lt h hmn
  · have hzero : m < 0 ∧ 0 < n := by omega
    calc
      signedRank m < signedRank 0 := signedRank_lt hzero.1 (.inr (by decide))
      _ < signedRank n := signedRank_lt hzero.2 (.inl (by decide))

/-- A whole number of up to 64 binary digits has a nearest number, that of its signed rank. -/
theorem exists_ofInt? {n : Int} (h : n.natAbs ≤ 2 ^ 64) :
    ∃ x, ofInt? n = some x ∧ x.order = signedRank n := by
  have hrank := rankOfRatio_lt_rankLimit h
  refine ⟨⟨decide (n < 0), rankOfRatio n.natAbs 1, hrank⟩, dif_pos hrank, ?_⟩
  simp [order, signedRank]

/-- Whole numbers of one signed rank come to the same number. -/
theorem ofInt?_congr {m n : Int} (h : signedRank m = signedRank n) : ofInt? m = ofInt? n := by
  have hsign : (m < 0 ↔ n < 0) := by
    rcases Int.lt_or_le m 0 with hm | hm <;> rcases Int.lt_or_le n 0 with hn | hn
    · omega
    · have := signedRank_lt (m := m) (n := 0) hm (.inr (by decide))
      have := signedRank_mono hn
      omega
    · have := signedRank_lt (m := n) (n := 0) hn (.inr (by decide))
      have := signedRank_mono hm
      omega
    · omega
  have hrank : rankOfRatio m.natAbs 1 = rankOfRatio n.natAbs 1 := by
    unfold signedRank at h
    split_ifs at h <;> omega
  unfold ofInt? ofRatio?
  rw [hrank, decide_eq_decide.mpr hsign]

end Reshape.Binary64
