/-
# The shortest decimal text of a binary number

The decimals that round to a given positive number fill an interval around it; the interval
holds its ends iff the significand is even.  The shortest text takes the coarsest decimal
grid that meets the interval and, of the grid points inside, the one nearest to the number.
`digits?` finds that point by exact arithmetic and `Layout` says how it is written.
-/
import Reshape.Number.Binary64

namespace Reshape

/-- A positive decimal number: `digits * 10 ^ exponent`. -/
structure Decimal where
  digits : Nat
  exponent : Int
deriving DecidableEq

namespace Binary64

/-! ## 1. The interval of decimals that read back -/

/-- Three numbers over one denominator, `low < value < high`: the decimals between `low` and
`high` are nearest to `value`.  The unit is 2^-1076, a quarter of the subnormal step. -/
structure Neighbourhood where
  low : Nat
  value : Nat
  high : Nat
  closed : Bool

/-- Half a step to each side, but a quarter of a step below a power of two, where the
numbers below lie closer together. -/
def neighbourhood (x : Binary64) : Neighbourhood :=
  let m := x.significand
  let below := if m = binade ∧ x.shift > 0 then 1 else 2
  { low := (4 * m - below) * Nat.pow 2 x.shift
    value := 4 * m * Nat.pow 2 x.shift
    high := (4 * m + 2) * Nat.pow 2 x.shift
    closed := m % 2 == 0 }

namespace Neighbourhood

/-- The grid of step `10 ^ k`, as units of 2^-1076: point `n` is `n * num / den`. -/
def step (k : Int) : Nat × Nat :=
  if 0 ≤ k then (Nat.pow 10 k.toNat * Nat.pow 2 1076, 1)
  else (Nat.pow 2 1076, Nat.pow 10 (-k).toNat)

/-- Does point `n` of the grid of step `10 ^ k` lie in the interval? -/
def holds (v : Neighbourhood) (k : Int) (n : Nat) : Bool :=
  let (num, den) := step k
  if v.closed then v.low * den ≤ n * num && n * num ≤ v.high * den
  else v.low * den < n * num && n * num < v.high * den

/-- The point of the grid of step `10 ^ k` that is nearest to the value among those in the
interval, if there is one: only the two neighbours of the value can be. -/
def nearest? (v : Neighbourhood) (k : Int) : Option Nat :=
  let (num, den) := step k
  let down := v.value * den / num
  let up := down + 1
  match v.holds k down, v.holds k up with
  | false, false => none
  | true, false => some down
  | false, true => some up
  | true, true =>
    let toDown := v.value * den - down * num
    let toUp := up * num - v.value * den
    if toDown < toUp then some down
    else if toUp < toDown then some up
    else some (if down % 2 = 0 then down else up)

/-- The first hit on the grids of step `10 ^ k`, `10 ^ (k - 1)`, … -/
def search (v : Neighbourhood) : Nat → Int → Decimal
  | 0, k => ⟨0, k⟩
  | fuel + 1, k =>
    match v.nearest? k with
    | some n => ⟨n, k⟩
    | none => v.search fuel (k - 1)

end Neighbourhood

/-- The shortest decimal that reads back as the magnitude of `x`; zero has none.  The search
starts on a grid coarser than the number, at a decimal exponent estimated from the binary
one, and ends within the eighteen grids below the number's leading digit. -/
def shortest? (x : Binary64) : Option Decimal :=
  if x.isZero then none
  else
    let twos : Int := (bitLength x.units : Int) - 1074
    let start := twos * 30103 / 100000 + 2
    some ((neighbourhood x).search 40 start)

end Binary64

/-! ## 2. Writing the digits -/

/-- How a decimal is laid out: positional while its leading digit stands at a place from
`10 ^ leastPlace` to `10 ^ greatestPlace`, scientific otherwise. -/
structure Layout where
  leastPlace : Int
  greatestPlace : Int
  exponentMark : String
  plusSign : String
  /-- What a whole number ends with in positional notation. -/
  wholeEnd : String

namespace Layout

/-- `n` zeros. -/
def zeros (n : Nat) : String := "".pushn '0' n

/-- The text of a decimal under a layout. -/
def write (l : Layout) (d : Decimal) : String :=
  let ds := d.digits.repr
  let n : Int := ds.length
  let place := n + d.exponent - 1
  if l.leastPlace ≤ place ∧ place ≤ l.greatestPlace then
    if 0 ≤ d.exponent then ds ++ zeros d.exponent.toNat ++ l.wholeEnd
    else if 0 ≤ place then
      let whole := place.toNat + 1
      String.ofList (ds.toList.take whole) ++ "." ++ String.ofList (ds.toList.drop whole)
    else "0." ++ zeros (-place - 1).toNat ++ ds
  else
    let mantissa :=
      match ds.toList with
      | [c] => String.ofList [c]
      | c :: cs => String.ofList (c :: '.' :: cs)
      | [] => ""
    let exponent :=
      if place < 0 then "-" ++ (-place).toNat.repr else l.plusSign ++ place.toNat.repr
    mantissa ++ l.exponentMark ++ exponent

end Layout

/-- The text of a number: its shortest decimal under a layout; zero is a whole number. -/
def Binary64.text (l : Layout) (x : Binary64) : String :=
  (if x.negative then "-" else "") ++
    match x.shortest? with
    | none => "0" ++ l.wholeEnd
    | some d => l.write d

end Reshape
