/-
# Reading dates and times

`Instant.read?` tries, in this order: the timestamps of RFC 3339, the dates of mail (RFC
2822), and patterns without a zone, which mean universal time.  A date without a time means
its midnight.
-/
import Reshape.Calendar.Instant
import Reshape.Text.Digits
import Reshape.Unicode.Blank

namespace Reshape.Calendar

/-! ## 1. Reading parts -/

/-- Reads a value from the front of a text, or fails. -/
abbrev Scan := StateT (List Char) Option

/-- Fails. -/
def fail {α : Type} : Scan α := fun _ => none

/-- Passes over white characters. -/
def blanks : Scan Unit := fun s => some ((), s.dropWhile Text.isWhite)

/-- Passes over at least one white character. -/
def someBlanks : Scan Unit := fun s =>
  match s with
  | c :: s => if Text.isWhite c then some ((), s.dropWhile Text.isWhite) else none
  | [] => none

/-- Reads a given character. -/
def char (c : Char) : Scan Unit := fun s =>
  match s with
  | d :: s => if c = d then some ((), s) else none
  | [] => none

/-- Reads a given character if it is there. -/
def optional (c : Char) : Scan Bool := fun s =>
  match s with
  | d :: s' => if c = d then some (true, s') else some (false, s)
  | [] => some (false, s)

/-- Reads digits, as many as there are up to `most`, but at least `least`: how many there
were, and the number they write. -/
def digits (least : Nat) (most : Option Nat) : Scan (Nat × Nat) := fun s =>
  let front := match most with
    | some m => s.take m
    | none => s
  let ds := front.takeWhile Char.isDigit
  if ds.length < least then none else some ((ds.length, Text.decimal ds), s.drop ds.length)

/-- Reads a number of digits in a range. -/
def number (least : Nat) (most : Option Nat) : Scan Nat := Prod.snd <$> digits least most

/-- Reads a number of two digits. -/
def two : Scan Nat := number 2 (some 2)

/-- Reads one of several words of three letters, without regard to case: its index. -/
def oneOf (words : List String) : Scan Nat := fun s =>
  match words.findIdx? (fun w => w.toList == (s.take 3).map Char.toLower) with
  | some i => some (i, s.drop 3)
  | none => none

def months : List String :=
  ["jan", "feb", "mar", "apr", "may", "jun", "jul", "aug", "sep", "oct", "nov", "dec"]

def weekdays : List String := ["mon", "tue", "wed", "thu", "fri", "sat", "sun"]

/-- Reads what is left if it is nothing. -/
def done : Scan Unit := fun s => if s.isEmpty then some ((), s) else none

/-! ## 2. Putting parts together -/

/-- The instant of a day and a time of day; second sixty is a leap second. -/
def instant? (date : Date) (hour minute second nanos : Nat) : Option Instant :=
  if date.isValid && hour < 24 && minute < 60 && second ≤ 60 then
    let leap := if second = 60 then 1 else 0
    some ⟨date, hour * 3600 + minute * 60 + (second - leap), nanos + leap * 1000000000⟩
  else none

/-- Reads the offset of a zone from its sign on, in seconds; `colon` tells whether one stands
between hours and minutes. -/
def offset (colon unicodeMinus : Bool) : Scan Int := fun s =>
  match s with
  | [] => none
  | sign :: s =>
    let direction : Option Int :=
      if sign = '+' then some 1
      else if sign = '-' then some (-1)
      else if unicodeMinus && sign = '−' then some (-1)
      else none
    match direction with
    | none => none
    | some d =>
      StateT.run (s := s) do
        let hours ← two
        if colon then char ':'
        let minutes ← two
        if 60 ≤ minutes then fail
        pure (d * (hours * 3600 + minutes * 60 : Nat))

/-- An instant in a zone, if the offset of the zone is less than a day. -/
def inZone (t : Option Instant) (zone : Int) : Scan Instant :=
  match t with
  | some t => if zone.natAbs < 86400 then StateT.lift (t.fromOffset? zone) else fail
  | none => fail

/-! ## 3. Timestamps -/

/-- Reads the digits of a fraction of a second: the nanoseconds; digits beyond the ninth are
passed over. -/
def fraction : Scan Nat := do
  let (n, v) ← digits 1 (some 9)
  let _ ← digits 0 none
  pure (v * Nat.pow 10 (9 - n))

/-- Reads a timestamp of RFC 3339. -/
def timestamp : Scan Instant := do
  let year ← number 4 (some 4)
  char '-'
  let month ← two
  char '-'
  let day ← two
  let mark ← optional 'T'
  let mark' ← if mark then pure true else optional 't'
  if !mark' then char ' '
  let hour ← two
  char ':'
  let minute ← two
  char ':'
  let second ← two
  let nanos ← if ← optional '.' then fraction else pure 0
  let zulu ← optional 'Z'
  let zulu' ← if zulu then pure true else optional 'z'
  let zone ← if zulu' then pure 0 else offset true true
  let t ← inZone (instant? ⟨year, month, day⟩ hour minute second nanos) zone
  done
  pure t

/-! ## 4. Dates of mail -/

/-- The zones that have a name, in hours. -/
def namedZone? (name : String) : Option Int :=
  match name with
  | "gmt" => some 0
  | "ut" => some 0
  | "z" => some 0
  | "edt" => some (-4)
  | "est" => some (-5)
  | "cdt" => some (-5)
  | "cst" => some (-6)
  | "mdt" => some (-6)
  | "mst" => some (-7)
  | "pdt" => some (-7)
  | "pst" => some (-8)
  | name =>
    match name.toList with
    | [c] => if c ≠ 'j' then some 0 else none
    | _ => none

/-- Reads a zone: its name, or its offset without a colon. -/
def mailZone : Scan Int := fun s =>
  match s.takeWhile Char.isAlpha with
  | [] => offset false false s
  | name =>
    (namedZone? (String.ofList (name.map Char.toLower))).map fun hours =>
      (hours * 3600, s.drop name.length)

/-- The characters behind a comment; `depth` parentheses are open. -/
def commentEnd (depth : Nat) (escaped : Bool) : List Char → Option (List Char)
  | [] => none
  | c :: s =>
    if escaped then commentEnd depth false s
    else if c = '\\' then commentEnd depth true s
    else if c = '(' then commentEnd (depth + 1) false s
    else if c = ')' then if depth ≤ 1 then some s else commentEnd (depth - 1) false s
    else commentEnd depth false s

/-- The characters behind any number of comments. -/
def skipComments : Nat → List Char → List Char
  | 0, s => s
  | fuel + 1, s =>
    match s.dropWhile Text.isWhite with
    | '(' :: inside =>
      match commentEnd 1 false inside with
      | some rest => skipComments fuel rest
      | none => s
    | _ => s

/-- Reads the day of the week and a comma, if there is one. -/
def optionalWeekday : Scan (Option Nat) := fun s =>
  match oneOf weekdays s with
  | some (i, ',' :: s) => some (some i, s)
  | some _ => none
  | none => some (none, s)

/-- Reads a year: of two digits those below fifty are of this century, and of three digits
the first stands for 1900 and more. -/
def mailYear : Scan Nat := do
  let (n, y) ← digits 2 none
  pure (if n = 2 then (if y < 50 then y + 2000 else y + 1900) else if n = 3 then y + 1900 else y)

/-- Reads a date of mail. -/
def mailDate : Scan Instant := do
  blanks
  let weekday ← optionalWeekday
  blanks
  let day ← number 1 (some 2)
  someBlanks
  let month ← oneOf months
  someBlanks
  let year ← mailYear
  someBlanks
  let hour ← two
  blanks
  char ':'
  blanks
  let minute ← two
  let second ← fun s =>
    match s.dropWhile Text.isWhite with
    | ':' :: s => two s
    | _ => some (0, s)
  someBlanks
  let zone ← mailZone
  modify fun s => skipComments s.length s
  let date : Date := ⟨year, month + 1, day⟩
  if weekday.any (· ≠ date.weekday) then fail
  let t ← inZone (instant? date hour minute second 0) zone
  done
  pure t

/-! ## 5. Patterns -/

/-- A part of a pattern. -/
inductive Part where
  | year
  | month
  | day
  | monthName
  | hour
  | minute
  | second
  | literal (c : Char)
  | space
deriving DecidableEq, Repr

/-- What parts have been read. -/
structure Fields where
  year : Int := 0
  month : Nat := 0
  day : Nat := 0
  hour : Nat := 0
  minute : Nat := 0
  second : Nat := 0

/-- Reads a year: up to four digits, or a sign and any number of digits. -/
def signedYear : Scan Int := do
  if ← optional '-' then
    let n ← number 1 none
    pure (-(n : Int))
  else if ← optional '+' then
    let n ← number 1 none
    pure n
  else
    let n ← number 1 (some 4)
    pure n

/-- Reads one or two digits behind any blanks. -/
def upToTwo : Scan Nat := do
  blanks
  number 1 (some 2)

/-- Reads a part of a pattern. -/
def part (f : Fields) : Part → Scan Fields
  | .year => do
    blanks
    let y ← signedYear
    pure { f with year := y }
  | .month => do
    let n ← upToTwo
    pure { f with month := n }
  | .day => do
    let n ← upToTwo
    pure { f with day := n }
  | .monthName => do
    let i ← oneOf months
    pure { f with month := i + 1 }
  | .hour => do
    let n ← upToTwo
    pure { f with hour := n }
  | .minute => do
    let n ← upToTwo
    pure { f with minute := n }
  | .second => do
    let n ← upToTwo
    pure { f with second := n }
  | .literal c => do
    char c
    pure f
  | .space => do
    blanks
    pure f

/-- Reads a text that a pattern describes. -/
def pattern (parts : List Part) : Scan Instant := do
  let f ← parts.foldlM part {}
  done
  StateT.lift (instant? ⟨f.year, f.month, f.day⟩ f.hour f.minute f.second 0)

/-- A year, a month and a day with a character between them. -/
def numericDay (c : Char) : List Part := [.year, .literal c, .month, .literal c, .day]

/-- An hour, a minute and a second with colons between them. -/
def clock : List Part := [.hour, .literal ':', .minute, .literal ':', .second]

/-- The patterns, in the order in which they are tried. -/
def patterns : List (List Part) :=
  [numericDay '-' ++ .space :: clock,
    numericDay '-' ++ .literal 'T' :: clock,
    numericDay '/' ++ .space :: clock,
    numericDay '-',
    numericDay '/',
    [.day, .space, .monthName, .space, .year]]

/-- The readers, in the order in which they are tried. -/
def readers : List (Scan Instant) := timestamp :: mailDate :: patterns.map pattern

end Reshape.Calendar

namespace Reshape

/-- The instant that a text writes. -/
def Instant.read? (s : String) : Option Instant :=
  Calendar.readers.findSome? fun r => (r.run s.toList).map Prod.fst

end Reshape
