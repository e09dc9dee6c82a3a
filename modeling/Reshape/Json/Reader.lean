/-
# Reading JSON text

A reader takes the characters that are left and answers a value with the characters behind
it, or a fault: what is wrong, and how many bytes of the text are left behind the place where
it shows.  `Json.read` turns the latter into a line and a column.

Arrays and objects are read by one loop (`parts`) over a reader for what is inside; `value
depth` nests them, at most `maxDepth` deep, by recursion on the depth that is left.  Each loop
consumes at least one character per round, so the number of characters left bounds its
rounds.
-/
import Reshape.Json.Basic
import Reshape.Text.Digits
import Reshape.Text.Utf8

namespace Reshape.Json

/-! ## 1. Faults -/

/-- What can be wrong with a JSON text. -/
inductive SyntaxFault where
  | endInValue
  | endInString
  | endInList
  | endInObject
  | expectedColon
  | expectedListEnd
  | expectedObjectEnd
  | expectedIdent
  | expectedValue
  | keyNotString
  | trailingComma
  | trailingCharacters
  | invalidNumber
  | numberOutOfRange
  | invalidEscape
  | loneSurrogate
  | brokenSurrogatePair
  | controlCharacter
  | tooDeep
deriving DecidableEq, Repr

/-- The wording of a fault. -/
def SyntaxFault.message : SyntaxFault → String
  | endInValue => "EOF while parsing a value"
  | endInString => "EOF while parsing a string"
  | endInList => "EOF while parsing a list"
  | endInObject => "EOF while parsing an object"
  | expectedColon => "expected `:`"
  | expectedListEnd => "expected `,` or `]`"
  | expectedObjectEnd => "expected `,` or `\x7d`"
  | expectedIdent => "expected ident"
  | expectedValue => "expected value"
  | keyNotString => "key must be a string"
  | trailingComma => "trailing comma"
  | trailingCharacters => "trailing characters"
  | invalidNumber => "invalid number"
  | numberOutOfRange => "number out of range"
  | invalidEscape => "invalid escape"
  | loneSurrogate => "lone leading surrogate in hex escape"
  | brokenSurrogatePair => "unexpected end of hex escape"
  | controlCharacter => "control character (\\u0000-\\u001F) found while parsing a string"
  | tooDeep => "recursion limit exceeded"

/-- A fault and the place where it shows. -/
structure SyntaxError where
  fault : SyntaxFault
  position : Text.Position
deriving DecidableEq

/-- The wording of a fault with its place. -/
def SyntaxError.message (e : SyntaxError) : String :=
  s!"{e.fault.message} at line {e.position.line} column {e.position.column}"

/-- A fault, with the number of bytes behind its place. -/
structure Stop where
  fault : SyntaxFault
  left : Nat

/-- Reads a value from the front of the characters. -/
abbrev Reader (α : Type) := List Char → Except Stop (α × List Char)

/-- The fault shows in front of the characters `s`, which are left. -/
def stopBefore {α : Type} (fault : SyntaxFault) (s : List Char) : Except Stop α :=
  .error ⟨fault, Text.byteCount s⟩

/-- The fault shows at the first byte of the characters `s`, or at their end if there are
none. -/
def stopAt {α : Type} (fault : SyntaxFault) (s : List Char) : Except Stop α :=
  .error ⟨fault, Text.byteCount s - 1⟩

/-! ## 2. Blanks and words -/

def isBlankChar (c : Char) : Bool := c = ' ' || c = '\n' || c = '\t' || c = '\r'

/-- The characters behind the leading blanks. -/
def skipBlanks (s : List Char) : List Char := s.dropWhile isBlankChar

/-- Reads the rest of a word whose first character has been read. -/
def word (v : Json) : List Char → Reader Json
  | [], s => .ok (v, s)
  | _ :: _, [] => stopBefore .endInValue []
  | c :: cs, d :: s => if c = d then word v cs s else stopAt .expectedIdent (d :: s)

/-! ## 3. Numbers -/

/-- Exponents are counted up to this number; beyond it only the sign of the exponent
matters. -/
def maxExponent : Nat := Nat.pow 2 31 - 1

/-- Reads the digits of an exponent, up to `maxExponent`; nothing if they exceed it.  The
characters left are those behind the digit that exceeds it, or behind the last digit. -/
def exponentDigits (n : Nat) : List Char → Option Nat × List Char
  | [] => (some n, [])
  | c :: s =>
    if c.isDigit then
      let n' := 10 * n + (c.toNat - '0'.toNat)
      if n' > maxExponent then (none, s) else exponentDigits n' s
    else (some n, c :: s)

/-- The floating-point number of a significand and an exponent, read up to `s`. -/
def floatOf (negative : Bool) (significand : Nat) (exponent : Int) (s : List Char) :
    Except Stop (Json × List Char) :=
  match Binary64.ofParts? negative significand exponent with
  | some x => .ok (.float x, s)
  | none => stopBefore .numberOutOfRange s

/-- Takes digits into a significand as long as it fits 64 bits: the significand with them, how
many they are, and the characters behind them. -/
def takeDigits (significand : Nat) : List Char → Nat × Nat × List Char
  | [] => (significand, 0, [])
  | c :: s =>
    let grown := 10 * significand + (c.toNat - '0'.toNat)
    if c.isDigit && grown < Nat.pow 2 64 then
      let (n, count, s) := takeDigits grown s
      (n, count + 1, s)
    else (significand, 0, c :: s)

/-- Reads an exponent behind its sign, which may point down. -/
def exponent (negative : Bool) (significand : Nat) (scale : Int) (down : Bool) : Reader Json :=
  fun s =>
    match s with
    | [] => stopBefore .endInValue []
    | c :: rest =>
      if !c.isDigit then stopAt .invalidNumber (c :: rest)
      else
        match exponentDigits 0 (c :: rest) with
        | (some e, s) => floatOf negative significand (if down then scale - e else scale + e) s
        | (none, s) =>
          if significand ≠ 0 && !down then stopBefore .numberOutOfRange s
          else .ok (.float (.zero negative), s.dropWhile Char.isDigit)

/-- Reads what follows the mark of an exponent. -/
def exponentPart (negative : Bool) (significand : Nat) (scale : Int) : Reader Json := fun s =>
  match s with
  | '+' :: s => exponent negative significand scale false s
  | '-' :: s => exponent negative significand scale true s
  | s => exponent negative significand scale false s

/-- Reads what follows the last digits: an exponent, if there is one, or else nothing, and the
number is `plain`. -/
def afterDigits (plain : Reader Json) (negative : Bool) (significand : Nat) (scale : Int) :
    Reader Json := fun s =>
  match s with
  | 'e' :: s => exponentPart negative significand scale s
  | 'E' :: s => exponentPart negative significand scale s
  | s => plain s

/-- Reads a fraction behind its point; `scale` counts the digits in front of the point that the
significand has not taken.  Digits that it cannot take are passed over. -/
def fractionPart (negative : Bool) (significand : Nat) (scale : Int) : Reader Json := fun s =>
  match s with
  | [] => stopBefore .endInValue []
  | c :: rest =>
    if !c.isDigit then stopAt .invalidNumber (c :: rest)
    else
      let (n, count, s) := takeDigits significand (c :: rest)
      let scale := scale - count
      afterDigits (floatOf negative n scale) negative n scale (s.dropWhile Char.isDigit)

/-- The number that digits alone write, read up to `s`.  A whole number that fits 64 bits stays
one; others, and `-0`, become floating-point numbers. -/
def wholeNumber (negative : Bool) (significand : Nat) (scale : Int) (s : List Char) :
    Except Stop (Json × List Char) :=
  if scale = 0 && !negative then .ok (.int significand, s)
  else if scale = 0 && 0 < significand && significand ≤ Nat.pow 2 63 then
    .ok (.int (-significand), s)
  else floatOf negative significand scale s

/-- Reads what follows the digits of a whole number; `scale` counts those that the significand
has not taken. -/
def afterWhole (negative : Bool) (significand : Nat) (scale : Int) : Reader Json := fun s =>
  match s with
  | '.' :: s => fractionPart negative significand scale s
  | s => afterDigits (wholeNumber negative significand scale) negative significand scale s

/-- Reads a number behind its sign.  A zero in front stands alone. -/
def number (negative : Bool) : Reader Json := fun s =>
  match s with
  | [] => stopBefore .endInValue []
  | c :: rest =>
    if !c.isDigit then stopAt .invalidNumber s
    else if c = '0' && rest.head?.any Char.isDigit then stopAt .invalidNumber rest
    else
      let (n, _, beyond) := takeDigits 0 s
      afterWhole negative n (beyond.takeWhile Char.isDigit).length
        (beyond.dropWhile Char.isDigit)

/-! ## 4. Texts -/

/-- Reads four hexadecimal digits.  A fault shows behind the fourth byte. -/
def fourHex : Reader Nat := fun s =>
  let digits := s.take 4
  if Text.byteCount digits < 4 then stopBefore .endInString []
  else
    match Text.number? 16 digits with
    | some n => .ok (n, s.drop 4)
    | none => .error ⟨.invalidEscape, Text.byteCount s - 4⟩

/-- Reads one of the characters that join a surrogate pair. -/
def pairMark (c : Char) : Reader Unit := fun s =>
  match s with
  | [] => stopBefore .endInString []
  | d :: rest => if c = d then .ok ((), rest) else stopAt .brokenSurrogatePair s

/-- Reads the four digits of a `\u` escape, and a second escape if they are the first half of
a surrogate pair. -/
def unicodeEscape : Reader Char := fun s => do
  let (n, s) ← fourHex s
  if 0xDC00 ≤ n && n ≤ 0xDFFF then stopBefore .loneSurrogate s
  else if n < 0xD800 || 0xDBFF < n then pure (Char.ofNat n, s)
  else
    let (_, s) ← pairMark '\\' s
    let (_, s) ← pairMark 'u' s
    let (m, s) ← fourHex s
    if m < 0xDC00 || 0xDFFF < m then stopBefore .loneSurrogate s
    else pure (Char.ofNat (0x10000 + (n - 0xD800) * 0x400 + (m - 0xDC00)), s)

/-- Reads an escape behind its backslash. -/
def escape : Reader Char := fun s =>
  match s with
  | [] => stopBefore .endInString []
  | '"' :: s => .ok ('"', s)
  | '\\' :: s => .ok ('\\', s)
  | '/' :: s => .ok ('/', s)
  | 'b' :: s => .ok ('\x08', s)
  | 'f' :: s => .ok ('\x0c', s)
  | 'n' :: s => .ok ('\n', s)
  | 'r' :: s => .ok ('\r', s)
  | 't' :: s => .ok ('\t', s)
  | 'u' :: s => unicodeEscape s
  | s => stopAt .invalidEscape s

/-- Reads characters up to the closing quote; `done` holds those before, last first. -/
def textBody : Nat → List Char → Reader String
  | 0, _, s => stopBefore .endInString s
  | _ + 1, _, [] => stopBefore .endInString []
  | fuel + 1, done, c :: s =>
    if c = '"' then .ok (String.ofList done.reverse, s)
    else if c = '\\' then
      match escape s with
      | .ok (d, s) => textBody fuel (d :: done) s
      | .error e => .error e
    else if c.toNat < 0x20 then stopAt .controlCharacter (c :: s)
    else textBody fuel (c :: done) s

/-- Reads a text of fewer than `limit` characters behind its opening quote. -/
def text (limit : Nat) : Reader String := textBody limit []

/-! ## 5. Arrays and objects -/

/-- What holds parts together. -/
inductive Bracket where
  | list
  | object

namespace Bracket

/-- The character behind the last part. -/
def close : Bracket → Char
  | list => ']'
  | object => '\x7d'

/-- The fault where the text ends too early. -/
def ended : Bracket → SyntaxFault
  | list => .endInList
  | object => .endInObject

/-- The fault where neither another part nor the end follows. -/
def expected : Bracket → SyntaxFault
  | list => .expectedListEnd
  | object => .expectedObjectEnd

end Bracket

/-- Goes to the next part: the first one stands there, any other one behind a comma. -/
def toPart (b : Bracket) (first : Bool) (s : List Char) : Except Stop (List Char) :=
  if first then .ok s
  else
    match s with
    | ',' :: s =>
      match skipBlanks s with
      | [] => stopBefore .endInValue []
      | c :: s => if c = b.close then stopAt .trailingComma (c :: s) else .ok (c :: s)
    | s => stopAt b.expected s

/-- Reads parts up to the bracket that closes them; `done` holds those before, last first. -/
def parts {α : Type} (b : Bracket) (part : Reader α) : Nat → List α → Reader (List α)
  | 0, _, s => stopBefore b.ended s
  | fuel + 1, done, s =>
    match skipBlanks s with
    | [] => stopBefore b.ended []
    | c :: s =>
      if c = b.close then .ok (done.reverse, s)
      else do
        let s ← toPart b done.isEmpty (c :: s)
        let (x, s) ← part s
        parts b part fuel (x :: done) s

/-- Reads a key, the colon and the value behind it. -/
def entry (limit : Nat) (item : Reader Json) : Reader (String × Json) := fun s => do
  let (key, s) ← match s with
    | '"' :: s => text limit s
    | s => stopAt .keyNotString s
  match skipBlanks s with
  | ':' :: s =>
    let (v, s) ← item s
    pure ((key, v), s)
  | [] => stopBefore .endInObject []
  | s => stopAt .expectedColon s

/-- Reads the items of an array. -/
def items (limit : Nat) (item : Reader Json) : Reader Json := fun s =>
  (parts .list item limit [] s).map fun (vs, s) => (.arr vs, s)

/-- Reads the entries of an object. -/
def entries (limit : Nat) (item : Reader Json) : Reader Json := fun s =>
  (parts .object (entry limit item) limit [] s).map fun (es, s) => (.obj (Entries.ofList es), s)

/-! ## 6. Values -/

/-- Reads a value whose items are read by `inner`; without it the value may not be an array
or an object.  No text, array or object in it has `limit` parts. -/
def valueWith (limit : Nat) (inner : Option (Reader Json)) : Reader Json := fun s =>
  match skipBlanks s with
  | [] => stopBefore .endInValue []
  | 'n' :: s => word .null ['u', 'l', 'l'] s
  | 't' :: s => word (.bool true) ['r', 'u', 'e'] s
  | 'f' :: s => word (.bool false) ['a', 'l', 's', 'e'] s
  | '-' :: s => number true s
  | '"' :: s => (text limit s).map fun (t, s) => (.str t, s)
  | '[' :: s =>
    match inner with
    | some item => items limit item s
    | none => stopAt .tooDeep ('[' :: s)
  | '\x7b' :: s =>
    match inner with
    | some item => entries limit item s
    | none => stopAt .tooDeep ('\x7b' :: s)
  | c :: s => if c.isDigit then number false (c :: s) else stopAt .expectedValue (c :: s)

/-- Reads a value in which arrays and objects nest at most `depth` deep. -/
def value (limit : Nat) : Nat → Reader Json
  | 0 => valueWith limit none
  | depth + 1 => valueWith limit (some (value limit depth))

/-- How deep arrays and objects may nest. -/
def maxDepth : Nat := 127

/-- Reads a text that is one value between blanks. -/
def document (s : List Char) : Except Stop Json := do
  let (v, s) ← value (s.length + 1) maxDepth s
  match skipBlanks s with
  | [] => pure v
  | s => stopAt .trailingCharacters s

/-- The value that a JSON text writes. -/
def read (s : String) : Except SyntaxError Json :=
  let cs := s.toList
  match document cs with
  | .ok v => .ok v
  | .error stop => .error ⟨stop.fault, Text.positionAfter (Text.byteCount cs - stop.left) cs⟩

end Reshape.Json
