/-
# Tags, anchors and directives of YAML

A tag is written in full between angle brackets, or as a handle and a suffix; a `%TAG`
directive says what a handle stands for.  Bytes of a tag may be written by their numbers
behind a percent sign.
-/
import Reshape.Text.Utf8
import Reshape.Yaml.Scalar

namespace Reshape.Yaml

/-! ## 1. Anchors -/

/-- May a character stand right behind the name of an anchor? -/
def endsAnchor (c : Char) : Bool :=
  isBlank c || isBreak c || ['?', ':', ',', ']', '\x7d', '%', '@', '\x60'].contains c

/-- Reads the name of an anchor, from its indicator on. -/
def scanAnchor (c : Cursor) : Except Error (String × Cursor) :=
  let (name, c') := c.next.takeWhile isWordChar
  if name.isEmpty || !(c'.head?.map endsAnchor).getD true then
    failAt c' .anchorCharacter (some (.anchor, c.mark))
  else .ok (String.ofList name, c')

/-! ## 2. Tags -/

namespace Tag

/-- A tag as it is written: a handle and what follows it.  A tag in full has no handle. -/
structure Shorthand where
  handle : String
  suffix : String
deriving DecidableEq, Repr

/-- May a character stand for itself in a tag?  Between angle brackets and in directives so
may three of the marks of flow collections. -/
def isUriChar (inFull : Bool) (c : Char) : Bool :=
  isWordChar c ||
    [';', '/', '?', ':', '@', '&', '=', '+', '$', '.', '!', '~', '*', '\'', '(', ')'].contains c ||
    (inFull && [',', '[', ']'].contains c)

/-- The byte that two digits behind a percent sign write. -/
def escapedByte? : List Char → Option Nat
  | '%' :: a :: b :: _ => Text.number? 16 [a, b]
  | _ => none

/-- The number of bytes of a character that starts with a byte. -/
def byteWidth? (b : Nat) : Option Nat :=
  if b < 0x80 then some 1
  else if 0xC0 ≤ b ∧ b < 0xE0 then some 2
  else if 0xE0 ≤ b ∧ b < 0xF0 then some 3
  else if 0xF0 ≤ b ∧ b < 0xF8 then some 4
  else none

/-- Reads the further bytes of a character, `bytes` being those before. -/
def scanTrail (context : Context) : Nat → List Nat → Cursor → Except Error (List Nat × Cursor)
  | 0, bytes, c => .ok (bytes, c)
  | n + 1, bytes, c =>
    match escapedByte? c.rest with
    | none => failAt c .uriEscape context
    | some b =>
      if 0x80 ≤ b ∧ b < 0xC0 then scanTrail context n (bytes ++ [b]) (c.skip 3)
      else failAt c .uriTrailByte context

/-- Reads the bytes of one character. -/
def scanEscaped (context : Context) (c : Cursor) : Except Error (List Nat × Cursor) :=
  match escapedByte? c.rest with
  | none => failAt c .uriEscape context
  | some b =>
    match byteWidth? b with
    | none => failAt c .uriLeadByte context
    | some width => scanTrail context (width - 1) [b] (c.skip 3)

/-- The bytes of a character. -/
def bytesOf (c : Char) : List Nat := (String.singleton c).toUTF8.toList.map UInt8.toNat

/-- Reads characters of a tag as bytes, onto `bytes`. -/
def scanBytes (inFull : Bool) (context : Context) :
    Nat → List Nat → Cursor → Except Error (List Nat × Cursor)
  | 0, bytes, c => .ok (bytes, c)
  | fuel + 1, bytes, c =>
    match c.head? with
    | some d =>
      if d == '%' then do
        let (more, c) ← scanEscaped context c
        scanBytes inFull context fuel (bytes ++ more) c
      else if isUriChar inFull d then
        scanBytes inFull context fuel (bytes ++ bytesOf d) c.next
      else .ok (bytes, c)
    | none => .ok (bytes, c)

/-- Reads characters of a tag behind those in `head`; there must be some in all. -/
def scanUri (inFull : Bool) (head : Option String) (context : Context) (c : Cursor) :
    Except Error (String × Cursor) := do
  let (bytes, c') ← scanBytes inFull context (c.limit + 1) [] c
  if bytes.isEmpty && head.isNone then failAt c' .tagUriMissing context
  let all := (head.getD "").toUTF8.toList ++ bytes.map Nat.toUInt8
  match Text.ofBytes? ⟨all.toArray⟩ with
  | some s => pure (s, c')
  | none => failAt c' .uriTrailByte context

/-- Reads a handle: an exclamation mark, word characters and, maybe, a second mark. -/
def scanHandle (inDirective : Bool) (context : Context) (c : Cursor) :
    Except Error (String × Cursor) :=
  if c.head? != some '!' then failAt c .tagMark context
  else
    let (name, c) := c.next.takeWhile isWordChar
    if c.head? == some '!' then .ok ("!" ++ String.ofList name ++ "!", c.next)
    else if inDirective && !name.isEmpty then failAt c .tagMark context
    else .ok ("!" ++ String.ofList name, c)

/-- Reads a tag in front of a node, without a look at what follows. -/
def scanBody (c : Cursor) : Except Error (Shorthand × Cursor) := do
  let context : Context := some (.tag, c.mark)
  let uriContext : Context := some (.tagUri, c.mark)
  if c.rest.tail.head? == some '<' then
    let (uri, c) ← scanUri true none uriContext (c.skip 2)
    if c.head? != some '>' then failAt c .tagClose context
    pure (⟨"", uri⟩, c.next)
  else
    let (handle, c) ← scanHandle false context c
    if handle.length > 1 && handle.endsWith "!" then
      let (suffix, c) ← scanUri false none uriContext c
      pure (⟨handle, suffix⟩, c)
    else
      let (suffix, c) ← scanUri false (some (String.ofList (handle.toList.drop 1))) uriContext c
      pure (if suffix.isEmpty then ⟨"", "!"⟩ else ⟨"!", suffix⟩, c)

/-- Reads a tag in front of a node. -/
def scan (inFlow : Bool) (c : Cursor) : Except Error (Shorthand × Cursor) := do
  let (tag, c') ← scanBody c
  if !blankOrEnd c'.rest && !(inFlow && c'.head? == some ',') then
    failAt c' .tagEnd (some (.tag, c.mark))
  pure (tag, c')

end Tag

/-! ## 3. Directives -/

/-- A line in front of a document. -/
inductive Directive where
  /-- The version of YAML that the document is written in. -/
  | version (major minor : Nat)
  /-- What a handle of tags stands for. -/
  | tagHandle (handle start : String)
deriving DecidableEq, Repr

namespace Directive

/-- How many digits a part of a version may have. -/
def versionDigits : Nat := 9

/-- Reads a part of a version. -/
def scanNumber (context : Context) (c : Cursor) : Except Error (Nat × Cursor) :=
  let (digits, c') := c.takeWhile Char.isDigit
  if digits.isEmpty then failAt c' .versionNumber context
  else if digits.length > versionDigits then failAt (c.skip versionDigits) .versionTooLong context
  else .ok (Text.decimal digits, c')

/-- Reads the value of a version directive. -/
def scanVersion (start : Mark) (c : Cursor) : Except Error (Directive × Cursor) := do
  let context : Context := some (.versionDirective, start)
  let (major, c) ← scanNumber context (c.skipWhile isBlank)
  if c.head? != some '.' then failAt c .versionSeparator context
  let (minor, c) ← scanNumber context c.next
  pure (.version major minor, c)

/-- Reads the value of a tag directive. -/
def scanTagHandle (start : Mark) (c : Cursor) : Except Error (Directive × Cursor) := do
  let context : Context := some (.tagDirective, start)
  let (handle, c) ← Tag.scanHandle true context (c.skipWhile isBlank)
  if !(c.head?.map isBlank).getD false then failAt c .tagSpace context
  let (uri, c) ← Tag.scanUri true none context (c.skipWhile isBlank)
  if !blankOrEnd c.rest then failAt c .tagEnd context
  pure (.tagHandle handle uri, c)

/-- Reads a directive, from the percent sign to the end of its line. -/
def scan (c : Cursor) : Except Error (Directive × Cursor) := do
  let context : Context := some (.directive, c.mark)
  let (name, c') := c.next.takeWhile isWordChar
  if name.isEmpty then failAt c' .directiveNameMissing context
  if !blankOrEnd c'.rest then failAt c' .directiveNameCharacter context
  let (directive, c') ←
    if name == ['Y', 'A', 'M', 'L'] then scanVersion c.mark c'
    else if name == ['T', 'A', 'G'] then scanTagHandle c.mark c'
    else failAt c' .unknownDirective context
  let c' ← Block.skipLineEnd .directiveTail context c'
  pure (directive, c')

end Directive

end Reshape.Yaml
