/-
# Finite binary floating-point numbers, exactly

A non-negative finite binary64 number has a *rank*: its position among all of them, from
`0` for zero and `1` for the least positive number, 2^-1074.  A number is held here by its
sign and the rank of its magnitude, so that

* there is one number for each sign and rank below `rankLimit`, and nothing else
  (no infinity, no "not a number");
* comparing numbers is comparing signed ranks (`Binary64.order`), and the two zeros agree;
* the value itself is a whole number of units of 2^-1074 (`Binary64.units`), so rounding
  and printing are exact arithmetic on natural numbers.

Main statement: `Binary64.sameValue_iff`.
-/

namespace Reshape

/-! ## 1. The numbers -/

/-- Bits of the stored fraction: ranks grow by `2 ^ 52` from one binade to the next. -/
def Binary64.binade : Nat := Nat.pow 2 52

/-- The rank after that of the largest finite number. -/
def Binary64.rankLimit : Nat := 2047 * Binary64.binade

/-- A finite binary64 number: a sign, and the rank of its magnitude. -/
structure Binary64 where
  negative : Bool
  rank : Nat
  finite : rank < Binary64.rankLimit
deriving DecidableEq

namespace Binary64

/-- The zero of a given sign. -/
def zero (negative : Bool) : Binary64 := ⟨negative, 0, by decide⟩

instance : Inhabited Binary64 := ⟨zero false⟩

/-- How many times the significand is doubled over the subnormal scale. -/
def shift (x : Binary64) : Nat := x.rank / binade - 1

/-- The significand: below `2 ^ 53`, and at least `2 ^ 52` unless the number is subnormal. -/
def significand (x : Binary64) : Nat := x.rank - x.shift * binade

/-- The magnitude as a whole number of units of 2^-1074. -/
def units (x : Binary64) : Nat := x.significand * Nat.pow 2 x.shift

def isZero (x : Binary64) : Bool := x.rank == 0

/-! ## 2. Order

The signed rank is monotone in the value, and both zeros have signed rank `0`. -/

/-- The signed rank. -/
def order (x : Binary64) : Int := if x.negative then -(x.rank : Int) else x.rank

/-- Equality of values: the two zeros are one value. -/
def sameValue (x y : Binary64) : Bool := x.order == y.order

/-- `x ≤ y` as numbers. -/
def le (x y : Binary64) : Bool := decide (x.order ≤ y.order)

/-- The form under which equal values are identical: zero loses its sign. -/
def unsigned (x : Binary64) : Binary64 := if x.isZero then zero false else x

theorem sameValue_iff {x y : Binary64} :
    x.sameValue y = true ↔ x.unsigned = y.unsigned := by
  obtain ⟨s, r, hr⟩ := x
  obtain ⟨t, q, hq⟩ := y
  by_cases h : r = 0 <;> by_cases h' : q = 0 <;> cases s <;> cases t <;>
    simp [sameValue, order, unsigned, isZero, zero, h, h'] <;> omega

/-! ## 3. Rounding

A ratio goes to the nearest number, and a tie to the even significand. -/

/-- Length of a natural number in binary. -/
def bitLength (n : Nat) : Nat := if n = 0 then 0 else n.log2 + 1

/-- The quotient `num / den` to the nearest natural number, a tie going to the even one. -/
def divNearestEven (num den : Nat) : Nat :=
  let q := num / den
  let r := num % den
  if 2 * r < den then q else if 2 * r > den then q + 1 else q + q % 2

/-- The rank nearest to `num / den`, not bounded above: a significand that rounds up to
`2 ^ 53` carries into the next binade by itself. -/
def rankOfRatio (num den : Nat) : Nat :=
  let scaled := num * Nat.pow 2 1074
  let s := bitLength (scaled / den) - 53
  s * binade + divNearestEven scaled (den * Nat.pow 2 s)

/-- The number of a sign and a rank, if the rank is that of a finite number. -/
def ofRank? (negative : Bool) (rank : Nat) : Option Binary64 :=
  if h : rank < rankLimit then some ⟨negative, rank, h⟩ else none

/-- The number nearest to `num / den`; none if it is too large. -/
def ofRatio? (negative : Bool) (num den : Nat) : Option Binary64 :=
  ofRank? negative (rankOfRatio num den)

/-- The number nearest to `n`; none if it is too large. -/
def ofInt? (n : Int) : Option Binary64 := ofRatio? (n < 0) n.natAbs 1

/-- The number nearest to `digits * 10 ^ exponent`; none if it is too large.  Exponents far
outside the range are decided from the length of `digits` alone. -/
def ofDecimal? (negative : Bool) (digits : Nat) (exponent : Int) : Option Binary64 :=
  if digits = 0 then some (zero negative)
  else if 0 ≤ exponent then
    if exponent > 400 then none
    else ofRatio? negative (digits * Nat.pow 10 exponent.toNat) 1
  else if (bitLength digits : Int) + 3 * exponent < -1100 then some (zero negative)
  else ofRatio? negative digits (Nat.pow 10 (-exponent).toNat)

@[simp] theorem ofDecimal?_zero (s : Bool) (e : Int) : ofDecimal? s 0 e = some (zero s) := rfl

/-! ## 4. Products and quotients

Each is the exact result, rounded once. -/

/-- The product of two numbers; none if it is too large. -/
def mul? (x y : Binary64) : Option Binary64 :=
  ofRatio? (x.negative != y.negative) (x.units * y.units) (Nat.pow 2 2148)

/-- The quotient of two numbers, of which the second is not zero; none if it is too large. -/
def div? (x y : Binary64) : Option Binary64 :=
  ofRatio? (x.negative != y.negative) x.units y.units

/-- The greatest power of ten that is no larger than the largest finite number. -/
def maxPower : Nat := 308

/-- The number nearest to `10 ^ k`, for `k` up to `maxPower`. -/
def powerOfTen (k : Nat) : Binary64 := (ofInt? (Nat.pow 10 k)).getD (zero false)

/-- A number divided so many times by the greatest power of ten, or until nothing is left. -/
def divideDown : Nat → Binary64 → Option Binary64
  | 0, x => some x
  | n + 1, x => if x.isZero then some x else (x.div? (powerOfTen maxPower)).bind (divideDown n)

/-- The number that a significand and a decimal exponent stand for, found in steps: the number
nearest to the significand is multiplied by one power of ten, or divided by powers of ten, and
each step rounds.  The last digits of the result can differ from those of `ofDecimal?`. -/
def ofParts? (negative : Bool) (significand : Nat) (exponent : Int) : Option Binary64 :=
  if significand = 0 then some (zero negative)
  else if 0 ≤ exponent then
    if maxPower < exponent then none
    else (ofRatio? negative significand 1).bind fun x => x.mul? (powerOfTen exponent.toNat)
  else do
    let down := (-exponent).toNat
    let rounds := (down - 1) / maxPower
    let x ← (ofRatio? negative significand 1).bind (divideDown rounds)
    x.div? (powerOfTen (down - rounds * maxPower))

/-! ## 5. Whole numbers -/

/-- The value, if it is a whole number. -/
def toInt? (x : Binary64) : Option Int :=
  if x.units % Nat.pow 2 1074 = 0 then
    let n : Int := (x.units / Nat.pow 2 1074 : Nat)
    some (if x.negative then -n else n)
  else none

end Binary64

end Reshape
