/-
# Sets of characters as ranges

A set of code points is a list of ranges, both ends included.  A *canonical* list is sorted,
and its ranges neither overlap nor touch; `Ranges.canonical` brings any list into that form,
and the operations on sets answer canonical lists.

Tables are kept as text: ranges in hexadecimal between blanks and ends of lines, a range of one
character without its second end (`Ranges.ofText`).
-/
import Reshape.Text.Digits
import Reshape.Text.Split

namespace Reshape.Unicode

/-- A set of code points: ranges with both ends. -/
abbrev Ranges := List (Nat × Nat)

namespace Ranges

/-! ## 1. Membership and text -/

/-- The greatest code point. -/
def maxCode : Nat := 0x10FFFF

/-- Is a code point in the set? -/
def holds (n : Nat) (rs : Ranges) : Bool := rs.any fun r => r.1 ≤ n && n ≤ r.2

/-- Is a character in the set? -/
def mem (c : Char) (rs : Ranges) : Bool := rs.holds c.toNat

/-- The number that hexadecimal digits write. -/
def hexNumber (digits : List Char) : Nat := (Text.number? 16 digits).getD 0

/-- The range that a word writes. -/
def ofWord (word : List Char) : Nat × Nat :=
  let low := hexNumber (word.takeWhile (· != '-'))
  match word.dropWhile (· != '-') with
  | _ :: high => (low, hexNumber high)
  | [] => (low, low)

/-- The set that a table writes. -/
def ofText (s : String) : Ranges :=
  let lines := Text.splitChars '\n' s.toList
  let words := lines.flatMap (Text.splitChars ' ')
  (words.filter fun w => !w.isEmpty).map ofWord

/-! ## 2. Canonical lists -/

/-- Puts a range before the first that starts later. -/
def insertSorted (r : Nat × Nat) : Ranges → Ranges
  | [] => [r]
  | q :: qs => if r.1 ≤ q.1 then r :: q :: qs else q :: insertSorted r qs

/-- Joins the ranges of a sorted list that overlap or touch; `r` is the one at hand. -/
def mergeFrom (r : Nat × Nat) : Ranges → Ranges
  | [] => [r]
  | q :: qs => if q.1 ≤ r.2 + 1 then mergeFrom (r.1, max r.2 q.2) qs else r :: mergeFrom q qs

/-- Joins the ranges of a sorted list that overlap or touch. -/
def merge : Ranges → Ranges
  | [] => []
  | r :: rs => mergeFrom r rs

/-- The canonical list of a set. -/
def canonical (rs : Ranges) : Ranges :=
  merge ((rs.filter fun r => r.1 ≤ r.2).mergeSort fun a b => a.1 ≤ b.1)

/-! ## 3. Operations on sets -/

/-- The gaps of a canonical list from `start` on. -/
def gapsFrom (start : Nat) : Ranges → Ranges
  | [] => if start ≤ maxCode then [(start, maxCode)] else []
  | r :: rs =>
    if start < r.1 then (start, r.1 - 1) :: gapsFrom (r.2 + 1) rs else gapsFrom (r.2 + 1) rs

/-- The code points outside a set. -/
def complement (rs : Ranges) : Ranges := gapsFrom 0 rs.canonical

/-- The code points in either set. -/
def union (rs qs : Ranges) : Ranges := canonical (rs ++ qs)

/-- The code points in both sets. -/
def inter (rs qs : Ranges) : Ranges := complement (rs.complement ++ qs.complement)

/-- The code points in the first set and not in the second. -/
def diff (rs qs : Ranges) : Ranges := inter rs qs.complement

/-- The code points in exactly one of the sets. -/
def symmDiff (rs qs : Ranges) : Ranges := (rs.union qs).diff (rs.inter qs)

end Ranges

/-- A set of characters with names: those for which a property has a value. -/
structure NamedSet where
  names : List String
  ranges : String

end Reshape.Unicode
