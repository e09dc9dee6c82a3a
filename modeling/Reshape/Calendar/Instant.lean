/-
# Dates and instants

A date is a day of the Gregorian calendar, which is taken to have always been in use; year
zero exists.  An instant is a date and a time of day in universal time.  A leap second is
written as second sixty: its nanoseconds count on from those of the second before it.

Instants are ordered by `Instant.rank`, so the order is total, and two instants of one rank
are the same instant.
-/

namespace Reshape

/-! ## 1. Dates -/

structure Date where
  year : Int
  month : Nat
  day : Nat
deriving DecidableEq, Repr

namespace Date

def isLeapYear (y : Int) : Bool := y % 4 == 0 && (y % 100 != 0 || y % 400 == 0)

/-- The number of days of a month. -/
def daysInMonth (y : Int) (m : Nat) : Nat :=
  if m = 2 then (if isLeapYear y then 29 else 28)
  else if m = 4 || m = 6 || m = 9 || m = 11 then 30
  else 31

/-- The years that dates may have. -/
def firstYear : Int := -262143

def lastYear : Int := 262142

/-- Is there such a day? -/
def isValid (d : Date) : Bool :=
  firstYear ≤ d.year && d.year ≤ lastYear && 1 ≤ d.month && d.month ≤ 12 && 1 ≤ d.day &&
    d.day ≤ daysInMonth d.year d.month

/-- The day after. -/
def next (d : Date) : Date :=
  if d.day < daysInMonth d.year d.month then { d with day := d.day + 1 }
  else if d.month < 12 then ⟨d.year, d.month + 1, 1⟩
  else ⟨d.year + 1, 1, 1⟩

/-- The day before. -/
def previous (d : Date) : Date :=
  if 1 < d.day then { d with day := d.day - 1 }
  else if 1 < d.month then ⟨d.year, d.month - 1, daysInMonth d.year (d.month - 1)⟩
  else ⟨d.year - 1, 12, 31⟩

/-- The days from the first of January of year zero to the first of January of a year. -/
def daysBeforeYear (y : Int) : Int := 365 * y + (y + 3) / 4 - (y + 99) / 100 + (y + 399) / 400

/-- The day of the week, Monday being zero. -/
def weekday (d : Date) : Nat :=
  let months := (List.range (d.month - 1)).map fun m => daysInMonth d.year (m + 1)
  let inYear : Nat := months.foldr (· + ·) 0
  ((daysBeforeYear d.year + inYear + d.day + 4) % 7).toNat

end Date

/-! ## 2. Instants -/

structure Instant where
  date : Date
  /-- The second of the day. -/
  second : Nat
  /-- At least 10^9 in a leap second. -/
  nanos : Nat
deriving DecidableEq, Repr

namespace Instant

/-- The place of an instant in time. -/
def rank (t : Instant) : Int :=
  (((t.date.year * 12 + t.date.month) * 31 + t.date.day) * 86400 + t.second) * 2000000000 + t.nanos

/-- Is an instant later than another? -/
def laterThan (t u : Instant) : Bool := u.rank < t.rank

/-- An instant in universal time from one that is `offset` seconds ahead of it, less than a
day. -/
def fromOffset? (offset : Int) (t : Instant) : Option Instant :=
  let second : Int := t.second - offset
  let moved : Instant :=
    if second < 0 then { t with date := t.date.previous, second := (second + 86400).toNat }
    else if 86400 ≤ second then { t with date := t.date.next, second := (second - 86400).toNat }
    else { t with second := second.toNat }
  if moved.date.isValid then some moved else none

/-! ## 3. Text -/

/-- A number with leading zeros up to a width. -/
def padded (width n : Nat) : String :=
  let ds := n.repr
  "".pushn '0' (width - ds.length) ++ ds

/-- A year: four digits, or a sign and at least four digits outside 0 to 9999. -/
def yearText (y : Int) : String :=
  if 0 ≤ y ∧ y ≤ 9999 then padded 4 y.toNat
  else (if y < 0 then "-" else "+") ++ padded 4 y.natAbs

/-- A fraction of a second with three, six or nine digits; nothing for none. -/
def fractionText (nanos : Nat) : String :=
  if nanos = 0 then ""
  else if nanos % 1000000 = 0 then "." ++ padded 3 (nanos / 1000000)
  else if nanos % 1000 = 0 then "." ++ padded 6 (nanos / 1000)
  else "." ++ padded 9 nanos

/-- The text of an instant as RFC 3339 lays it down, in universal time. -/
def text (t : Instant) : String :=
  let leap := t.nanos / 1000000000
  yearText t.date.year ++ "-" ++ padded 2 t.date.month ++ "-" ++ padded 2 t.date.day ++ "T" ++
    padded 2 (t.second / 3600) ++ ":" ++ padded 2 (t.second / 60 % 60) ++ ":" ++
    padded 2 (t.second % 60 + leap) ++ fractionText (t.nanos % 1000000000) ++ "+00:00"

end Instant

end Reshape
