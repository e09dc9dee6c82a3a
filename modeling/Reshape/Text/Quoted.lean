/-
# Names as they are displayed

A displayed name stands between quotes.  Quotes, backslashes and the usual control characters
have an escape of one letter; any other character that cannot be printed, or that would
attach itself to the one before it, is written by its number.  `Text.displayList` shows a
list of names between brackets.
-/
import Reshape.Unicode.Category
import Reshape.Unicode.Property
import Reshape.Unicode.Ranges

namespace Reshape.Text

open Unicode (Ranges)

/-- The characters of categories that can be printed, and the blank. -/
def printableSet : Ranges :=
  Ranges.canonical <| (0x20, 0x20) ::
    [Unicode.Category.uppercaseLetter, Unicode.Category.lowercaseLetter,
      Unicode.Category.titlecaseLetter, Unicode.Category.modifierLetter,
      Unicode.Category.otherLetter, Unicode.Category.nonspacingMark,
      Unicode.Category.spacingMark, Unicode.Category.enclosingMark,
      Unicode.Category.decimalNumber, Unicode.Category.letterNumber,
      Unicode.Category.otherNumber, Unicode.Category.connectorPunctuation,
      Unicode.Category.dashPunctuation, Unicode.Category.openPunctuation,
      Unicode.Category.closePunctuation, Unicode.Category.initialPunctuation,
      Unicode.Category.finalPunctuation, Unicode.Category.otherPunctuation,
      Unicode.Category.mathSymbol, Unicode.Category.currencySymbol,
      Unicode.Category.modifierSymbol, Unicode.Category.otherSymbol].flatMap Ranges.ofText

/-- The characters that attach themselves to the one before. -/
def attachingSet : Ranges := Ranges.ofText Unicode.Property.graphemeExtend

/-- Can a character be displayed as it is? -/
def isPrintable (c : Char) : Bool :=
  if c.toNat < 128 then 0x20 ≤ c.toNat && c.toNat < 0x7F
  else printableSet.mem c && !attachingSet.mem c

/-- A character as it is displayed between quotes. -/
def displayChar (c : Char) : List Char :=
  if c = '"' then ['\\', '"']
  else if c = '\\' then ['\\', '\\']
  else if c = '\n' then ['\\', 'n']
  else if c = '\r' then ['\\', 'r']
  else if c = '\t' then ['\\', 't']
  else if c.toNat = 0 then ['\\', '0']
  else if isPrintable c then [c]
  else ['\\', 'u', '\x7b'] ++ (Nat.toDigits 16 c.toNat) ++ ['\x7d']

/-- A name between quotes. -/
def display (s : String) : String :=
  "\"" ++ String.ofList (s.toList.flatMap displayChar) ++ "\""

/-- Names between brackets. -/
def displayList (names : List String) : String :=
  "[" ++ ", ".intercalate (names.map display) ++ "]"

/-- A record: its name, and its fields between braces. -/
def displayRecord (name : String) (fields : List (String × String)) : String :=
  name ++ " \x7b " ++ ", ".intercalate (fields.map fun f => f.1 ++ ": " ++ f.2) ++ " \x7d"

end Reshape.Text
