/-
# Reading positions in a YAML text

A cursor holds the characters that are left and the place they start at.  A line break is a
line feed, a carriage return, both as one, or one of the three breaks of Unicode; each stands
for a line feed in the text of a scalar, apart from the line and the paragraph separator,
which stand for themselves.

A cursor only moves forward: `next` passes one character of a line and `newline` one break.
-/

namespace Reshape.Yaml

/-! ## 1. Characters -/

/-- A space or a tab. -/
def isBlank (c : Char) : Bool := c == ' ' || c == '\t'

/-- A character that ends a line. -/
def isBreak (c : Char) : Bool :=
  c == '\n' || c == '\r' || c.toNat == 0x85 || c.toNat == 0x2028 || c.toNat == 0x2029

/-- A letter, a digit, a low line or a hyphen. -/
def isWordChar (c : Char) : Bool := c.isAlphanum || c == '_' || c == '-'

/-- May a character stand in a YAML text? -/
def isAllowed (c : Char) : Bool :=
  let n := c.toNat
  n == 0x09 || n == 0x0A || n == 0x0D || (0x20 ≤ n && n ≤ 0x7E) || n == 0x85 ||
    (0xA0 ≤ n && n ≤ 0xD7FF) || (0xE000 ≤ n && n ≤ 0xFFFD) || 0x10000 ≤ n

/-- Does a list of characters start with a blank or a break, or is it at its end? -/
def blankOrEnd : List Char → Bool
  | [] => true
  | c :: _ => isBlank c || isBreak c

/-- Does a list of characters start with a break, or is it at its end? -/
def breakOrEnd : List Char → Bool
  | [] => true
  | c :: _ => isBreak c

/-! ## 2. Cursors -/

/-- A place in a text, counted in characters from zero. -/
structure Mark where
  index : Nat
  line : Nat
  column : Nat
deriving DecidableEq, Repr, Inhabited

/-- The start of a text. -/
def Mark.start : Mark := ⟨0, 0, 0⟩

/-- The characters that are left, and where they start. -/
structure Cursor where
  mark : Mark
  rest : List Char
  /-- At least the number of characters that are left, so that it bounds loops over them. -/
  limit : Nat

namespace Cursor

/-- The start of a text. -/
def ofText (s : String) : Cursor := ⟨.start, s.toList, s.length⟩

variable (c : Cursor)

def column : Nat := c.mark.column

/-- The first character that is left. -/
def head? : Option Char := c.rest.head?

/-- Passes one character. -/
def next : Cursor :=
  { c with
    mark := { c.mark with index := c.mark.index + 1, column := c.mark.column + 1 },
    rest := c.rest.tail }

/-- Passes a number of characters. -/
def skip : Nat → Cursor → Cursor
  | 0, c => c
  | n + 1, c => skip n c.next

/-- Passes the characters of a line that satisfy a test. -/
def skipWhile (p : Char → Bool) : Cursor :=
  skip (c.rest.takeWhile p).length c

/-- The characters from here on that satisfy a test, and the cursor behind them. -/
def takeWhile (p : Char → Bool) : List Char × Cursor := (c.rest.takeWhile p, c.skipWhile p)

/-- The place behind a break of some characters. -/
def markBelow (width : Nat) : Mark := ⟨c.mark.index + width, c.mark.line + 1, 0⟩

/-- Passes a break, if there is one, and answers the text it stands for. -/
def newline : List Char × Cursor :=
  match c.rest with
  | '\r' :: '\n' :: rest => (['\n'], { c with mark := c.markBelow 2, rest := rest })
  | b :: rest =>
    if !isBreak b then ([], c)
    else
      let below : Cursor := { c with mark := c.markBelow 1, rest := rest }
      if b.toNat == 0x2028 || b.toNat == 0x2029 then ([b], below) else (['\n'], below)
  | [] => ([], c)

/-- Does a line start here with three characters that mark the bounds of a document? -/
def atMarker (m : Char) : Bool :=
  c.column == 0 &&
    match c.rest with
    | a :: b :: d :: rest => a == m && b == m && d == m && blankOrEnd rest
    | _ => false

/-- Does a line start here with the bounds of a document? -/
def atBounds : Bool := c.atMarker '-' || c.atMarker '.'

end Cursor

end Reshape.Yaml
