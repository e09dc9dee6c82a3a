/-
# JSON text of a value

`Json.compact` writes a value without blanks and `Json.pretty` over several lines, two
spaces to a level.  A text is quoted; inside it the quote, the backslash and the control
characters below U+0020 are escaped and all else is written as it is.
-/
import Reshape.Json.Basic
import Reshape.Number.Shortest

namespace Reshape.Json

/-! ## 1. Numbers and texts -/

/-- Floating-point numbers are written positionally while the leading digit stands at a place
from 10^-5 to 10^15; a positive exponent has its sign. -/
def floatLayout : Layout where
  leastPlace := -5
  greatestPlace := 15
  exponentMark := "e"
  plusSign := "+"
  wholeEnd := ".0"

/-- The digit of a number below sixteen. -/
def hexDigit (n : Nat) : Char := Nat.digitChar n

/-- A character as it stands between quotes. -/
def escapeChar (c : Char) : List Char :=
  if c = '"' then ['\\', '"']
  else if c = '\\' then ['\\', '\\']
  else if c = '\n' then ['\\', 'n']
  else if c = '\r' then ['\\', 'r']
  else if c = '\t' then ['\\', 't']
  else if c = '\x08' then ['\\', 'b']
  else if c = '\x0c' then ['\\', 'f']
  else if c.toNat < 0x20 then
    ['\\', 'u', '0', '0', hexDigit (c.toNat / 16), hexDigit (c.toNat % 16)]
  else [c]

/-- A text between quotes. -/
def quote (s : String) : String :=
  "\"" ++ String.ofList (s.toList.flatMap escapeChar) ++ "\""

/-! ## 2. Compact text -/

mutual

/-- The text of a value without blanks. -/
def compact : Json → String
  | null => "null"
  | bool b => if b then "true" else "false"
  | int n => toString n
  | float x => x.text floatLayout
  | str s => quote s
  | arr items => "[" ++ compactItems items ++ "]"
  | obj es => "\x7b" ++ compactEntries es ++ "\x7d"

def compactItems : List Json → String
  | [] => ""
  | [v] => compact v
  | v :: vs => compact v ++ "," ++ compactItems vs

def compactEntries : List (String × Json) → String
  | [] => ""
  | [(k, v)] => quote k ++ ":" ++ compact v
  | (k, v) :: es => quote k ++ ":" ++ compact v ++ "," ++ compactEntries es

end

/-- The text of a value where it stands for itself: a text bare, null empty, anything else as
compact JSON. -/
def toText : Json → String
  | null => ""
  | str s => s
  | v => compact v

/-! ## 3. Text over several lines -/

/-- The start of a line at a depth. -/
def newline (depth : Nat) : String := "\n" ++ "".pushn ' ' (2 * depth)

mutual

/-- The text of a value that stands at a depth, over several lines. -/
def prettyAt (depth : Nat) : Json → String
  | arr [] => "[]"
  | obj [] => "\x7b\x7d"
  | arr items => "[" ++ prettyItems (depth + 1) items ++ newline depth ++ "]"
  | obj es => "\x7b" ++ prettyEntries (depth + 1) es ++ newline depth ++ "\x7d"
  | v => compact v

def prettyItems (depth : Nat) : List Json → String
  | [] => ""
  | [v] => newline depth ++ prettyAt depth v
  | v :: vs => newline depth ++ prettyAt depth v ++ "," ++ prettyItems depth vs

def prettyEntries (depth : Nat) : List (String × Json) → String
  | [] => ""
  | [(k, v)] => newline depth ++ quote k ++ ": " ++ prettyAt depth v
  | (k, v) :: es =>
    newline depth ++ quote k ++ ": " ++ prettyAt depth v ++ "," ++ prettyEntries depth es

end

/-- The text of a value over several lines, two spaces to a level. -/
def pretty (v : Json) : String := prettyAt 0 v

end Reshape.Json
