/-
# Log lines

The notices of a run go to a log, one line each: a level, the part of the program that sent the
notice, and its text.  Warnings come from the program as a whole, details from an area of it.
Characters that could steer a terminal are spelled out.
-/
import Reshape.Reporting

namespace Reshape

/-- Which notices a log shows. -/
inductive LogLevel where
  | off
  | warnings
  | details
deriving DecidableEq, Repr

namespace Log

/-- The name under which the program sends notices. -/
def program : String := "json_mapping"

/-- The digits of a number in base sixteen. -/
def hex (n : Nat) : String := String.ofList (Nat.toDigits 16 n)

/-- A character as a log shows it. -/
def showChar (c : Char) : String :=
  if c.toNat = 0x1b || c.toNat = 0x7f then s!"\\x{hex c.toNat}"
  else if c.toNat = 0x07 || c.toNat = 0x08 || c.toNat = 0x0c then s!"\\x0{hex c.toNat}"
  else if 0x80 ≤ c.toNat && c.toNat ≤ 0x9f then s!"\\u" ++ "\x7b" ++ hex c.toNat ++ "\x7d"
  else String.singleton c

/-- A text as a log shows it. -/
def showText (s : String) : String := String.join (s.toList.map showChar)

/-- The line of a notice, if a log of this level shows it. -/
def line? (level : LogLevel) : Notice → Option String
  | .warning text =>
    if level = .off then none else some s!"WARN {program}: {showText text}"
  | .detail area text =>
    if level = .details then some s!"DEBUG {program}::{area}: {showText text}" else none

/-- The lines of notices. -/
def lines (level : LogLevel) (notices : List Notice) : List String :=
  notices.filterMap (line? level)

@[simp] theorem lines_off (notices : List Notice) : lines .off notices = [] := by
  induction notices with
  | nil => rfl
  | cons n ns ih => cases n <;> simp_all [lines, line?]

end Log

end Reshape
