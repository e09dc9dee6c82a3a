/-
# Reading regular expressions

The reader keeps the characters that are left, the flags in force and, for every parenthesis
that is open, what stood before it.  A fault names the characters at which it shows.
-/
import Reshape.Regex.CharClass
import Reshape.Text.Digits
import Reshape.Unicode.Blank

namespace Reshape.Regex

open Unicode (Ranges)

/-! ## 1. Faults -/

/-- What can be wrong with a regular expression. -/
inductive SyntaxFault where
  | classEscape
  | classRange
  | classRangeEnd
  | classUnclosed
  | decimalInvalid
  | hexEmpty
  | hexNoCharacter
  | hexDigit
  | escapeEnd
  | escapeUnknown
  | flagDangling
  | flagTwice
  | flagTwoNegations
  | flagEnd
  | flagUnknown
  | nameTwice
  | nameEmpty
  | nameCharacter
  | nameEnd
  | groupUnclosed
  | groupUnopened
  | tooDeep
  | countRange
  | countEmpty
  | countUnclosed
  | repeatsNothing
  | wordUnclosed
  | wordUnknown
  | wordEnd
  | propertySyntax
  | backReference
  | lookAround
  | unicodeNotAllowed
  | invalidUtf8
  | propertyUnknown
  | propertyValueUnknown
deriving DecidableEq, Repr

/-- How deep an expression may nest. -/
def maxNesting : Nat := 250

/-- The wording of a fault. -/
def SyntaxFault.message : SyntaxFault → String
  | classEscape => "invalid escape sequence found in character class"
  | classRange => "invalid character class range, the start must be <= the end"
  | classRangeEnd => "invalid range boundary, must be a literal"
  | classUnclosed => "unclosed character class"
  | decimalInvalid => "decimal literal invalid"
  | hexEmpty => "hexadecimal literal empty"
  | hexNoCharacter => "hexadecimal literal is not a Unicode scalar value"
  | hexDigit => "invalid hexadecimal digit"
  | escapeEnd => "incomplete escape sequence, reached end of pattern prematurely"
  | escapeUnknown => "unrecognized escape sequence"
  | flagDangling => "dangling flag negation operator"
  | flagTwice => "duplicate flag"
  | flagTwoNegations => "flag negation operator repeated"
  | flagEnd => "expected flag but got end of regex"
  | flagUnknown => "unrecognized flag"
  | nameTwice => "duplicate capture group name"
  | nameEmpty => "empty capture group name"
  | nameCharacter => "invalid capture group character"
  | nameEnd => "unclosed capture group name"
  | groupUnclosed => "unclosed group"
  | groupUnopened => "unopened group"
  | tooDeep =>
    s!"exceed the maximum number of nested parentheses/brackets ({maxNesting})"
  | countRange => "invalid repetition count range, the start must be <= the end"
  | countEmpty => "repetition quantifier expects a valid decimal"
  | countUnclosed => "unclosed counted repetition"
  | repeatsNothing => "repetition operator missing expression"
  | wordUnclosed =>
    "special word boundary assertion is either unclosed or contains an invalid character"
  | wordUnknown =>
    "unrecognized special word boundary assertion, valid choices are: start, end, " ++
      "start-half or end-half"
  | wordEnd =>
    "found either the beginning of a special word boundary or a bounded repetition on a " ++
      "\\b with an opening brace, but no closing brace"
  | propertySyntax => "invalid Unicode character class"
  | backReference => "backreferences are not supported"
  | lookAround =>
    "look-around, including look-ahead and look-behind, is not supported"
  | unicodeNotAllowed => "Unicode not allowed here"
  | invalidUtf8 => "pattern can match invalid UTF-8"
  | propertyUnknown => "Unicode property not found"
  | propertyValueUnknown => "Unicode property value not found"

/-- A fault, with the numbers of characters left where it starts and behind it. -/
structure Stop where
  fault : SyntaxFault
  start : Nat
  stop : Nat

/-- A fault that shows from the characters `s` on, up to the characters `t`. -/
def stopIn {α : Type} (fault : SyntaxFault) (s t : List Char) : Except Stop α :=
  .error ⟨fault, s.length, t.length⟩

/-- A fault that shows at the first of the characters `s`. -/
def stopAt {α : Type} (fault : SyntaxFault) (s : List Char) : Except Stop α :=
  stopIn fault s (s.drop 1)

/-! ## 2. Flags and blanks -/

structure Flags where
  ignoreCase : Bool := false
  multiLine : Bool := false
  dotAll : Bool := false
  crlf : Bool := false
  unicode : Bool := true
  /-- Blanks and comments between the parts of an expression are passed over. -/
  extended : Bool := false
  /-- A parenthesis may look around.  There is no letter for this. -/
  lookAround : Bool := false

/-- The characters behind blanks and comments. -/
def skipBlanksFrom (inComment : Bool) : List Char → List Char
  | [] => []
  | c :: cs =>
    if inComment then skipBlanksFrom (c ≠ '\n') cs
    else if Text.isWhite c then skipBlanksFrom false cs
    else if c = '#' then skipBlanksFrom true cs
    else c :: cs

/-- The characters behind blanks and comments, if these are passed over. -/
def skip (extended : Bool) (s : List Char) : List Char :=
  if extended then skipBlanksFrom false s else s

/-- Sets one flag. -/
def Flags.set? (f : Flags) (on : Bool) : Char → Option Flags
  | 'i' => some { f with ignoreCase := on }
  | 'm' => some { f with multiLine := on }
  | 's' => some { f with dotAll := on }
  | 'U' => some f
  | 'u' => some { f with unicode := on }
  | 'R' => some { f with crlf := on }
  | 'x' => some { f with extended := on }
  | _ => none

/-- Reads flags up to the colon or the parenthesis that ends them; `seen` are those read. -/
def flagsFrom (flags : Flags) (negated : Bool) (seen : List Char) :
    List Char → Except Stop (Flags × List Char × List Char)
  | [] => stopIn .flagEnd [] []
  | c :: s =>
    if c = ':' || c = ')' then
      if seen.head? = some '-' then stopAt .flagDangling (c :: s) else .ok (flags, seen, c :: s)
    else if c = '-' then
      if negated then stopAt .flagTwoNegations (c :: s)
      else if s.isEmpty then stopIn .flagEnd [] []
      else flagsFrom flags true (c :: seen) s
    else
      match flags.set? (!negated) c with
      | none => stopAt .flagUnknown (c :: s)
      | some flags' =>
        if seen.contains c then stopAt .flagTwice (c :: s)
        else flagsFrom flags' negated (c :: seen) s

/-! ## 3. Escapes -/

/-- What an escape stands for.  A character written by two hexadecimal digits may stand for a
byte where Unicode is switched off. -/
inductive Atom where
  | char (c : Char) (byte : Bool)
  | set (rs : Ranges)
  | look (l : Look)

/-- The code points outside a set; without Unicode there are only 256 of them. -/
def negate (unicode : Bool) (rs : Ranges) : Ranges :=
  if unicode then rs.complement else Ranges.inter rs.complement [(0, 255)]

/-- A set with the characters that differ in case only, if case is ignored. -/
def fold (f : Flags) (rs : Ranges) : Ranges :=
  if f.ignoreCase then foldSet f.unicode rs else rs

/-- The character of a code point, which must not be a surrogate. -/
def charOf? (n : Nat) : Option Char := if n.isValidChar then some (Char.ofNat n) else none

/-- Reads a fixed number of hexadecimal digits; `whole` starts at the backslash. -/
def hexFixed (x : Bool) (whole : List Char) :
    Nat → Nat → List Char → Except Stop (Nat × List Char)
  | 0, n, s => .ok (n, s)
  | k + 1, n, s =>
    match s with
    | [] => stopIn .escapeEnd whole []
    | c :: s' =>
      match Text.hexValue? c with
      | none => stopAt .hexDigit s
      | some d => hexFixed x whole k (16 * n + d) (skip x s')

/-- Reads hexadecimal digits up to a closing brace. -/
def hexBraced (x : Bool) (whole : List Char) (digits : Nat) (n : Nat) :
    Nat → List Char → Except Stop (Nat × Nat × List Char)
  | 0, _ => stopIn .escapeEnd whole []
  | fuel + 1, s =>
    match s with
    | [] => stopIn .escapeEnd whole []
    | '\x7d' :: s => .ok (n, digits, skip x s)
    | c :: s' =>
      match Text.hexValue? c with
      | none => stopAt .hexDigit s
      | some d => hexBraced x whole (digits + 1) (min (16 * n + d) 0x110000) fuel (skip x s')

/-- Reads a character by its number; `s` starts behind the letter `kind`. -/
def hexEscape (x : Bool) (whole : List Char) (kind : Char) (s : List Char) :
    Except Stop (Atom × List Char) :=
  match skip x s with
  | [] => stopIn .escapeEnd whole []
  | '\x7b' :: s => do
    let (n, digits, t) ← hexBraced x whole 0 0 (s.length + 1) (skip x s)
    if digits = 0 then stopIn .hexEmpty s t
    else
      match charOf? n with
      | some c => pure (.char c false, t)
      | none => stopIn .hexNoCharacter s t
  | s => do
    let count := if kind = 'x' then 2 else if kind = 'u' then 4 else 8
    let (n, t) ← hexFixed x whole count 0 s
    match charOf? n with
    | some c => pure (.char c (kind = 'x'), t)
    | none => stopIn .hexNoCharacter s t

/-- Cuts at the first occurrence of a character. -/
def cutAtChar (c : Char) (s : List Char) : Option (List Char × List Char) :=
  if s.contains c then some (s.takeWhile (· ≠ c), (s.dropWhile (· ≠ c)).drop 1) else none

/-- Cuts a name at the sign that ties a property to a value: whether the sign is `!=`, the
property and the value. -/
def cutName (s : List Char) : Option (Bool × List Char × List Char) :=
  let rec unequal (done : List Char) : List Char → Option (List Char × List Char)
    | '!' :: '=' :: s => some (done.reverse, s)
    | c :: s => unequal (c :: done) s
    | [] => none
  match unequal [] s with
  | some (p, v) => some (true, p, v)
  | none =>
    match (cutAtChar ':' s).orElse fun _ => cutAtChar '=' s with
    | some (p, v) => some (false, p, v)
    | none => none

/-- Reads the name of a Unicode set; `s` starts behind the letter. -/
def unicodeEscape (f : Flags) (whole : List Char) (negated : Bool) (s : List Char) :
    Except Stop (Atom × List Char) := do
  let x := f.extended
  let finish (found : Except NameFault Ranges) (negated : Bool) (t : List Char) :
      Except Stop (Atom × List Char) :=
    if !f.unicode then stopIn .unicodeNotAllowed whole t
    else
      match found with
      | .error .property => stopIn .propertyUnknown whole t
      | .error .value => stopIn .propertyValueUnknown whole t
      | .ok rs =>
        let rs := fold f rs
        .ok (.set (if negated then negate true rs else rs), t)
  let named (name : String) : Except NameFault Ranges :=
    match unicodeSet? name with
    | some rs => .ok rs
    | none => .error .property
  match skip x s with
  | [] => stopIn .escapeEnd whole []
  | '\x7b' :: s =>
    let s := if x then s.filter (fun c => !Text.isWhite c || c = '\x7d') else s
    match cutAtChar '\x7d' s with
    | none => stopIn .escapeEnd whole []
    | some (name, t) =>
      match cutName name with
      | some (unequal, p, v) =>
        finish (unicodeValueSet (String.ofList p) (String.ofList v)) (negated != unequal) t
      | none => finish (named (String.ofList name)) negated t
  | c :: s =>
    if c = '\\' then stopIn .propertySyntax whole (c :: s)
    else
      let letter := plainName (String.ofList [c])
      let found : Except NameFault Ranges :=
        match categorySet? letter with
        | some rs => .ok rs
        | none => .error .property
      finish found negated (skip x s)

/-- The special word boundaries by their names. -/
def wordBoundary? (unicode : Bool) (name : String) : Option Look :=
  match name with
  | "start" => some (.wordStart unicode)
  | "end" => some (.wordEnd unicode)
  | "start-half" => some (.wordStartHalf unicode)
  | "end-half" => some (.wordEndHalf unicode)
  | _ => none

/-- Characters in the name of a special word boundary. -/
def isBoundaryChar (c : Char) : Bool := c.isAlpha || c = '-'

/-- Reads what may follow `\b`; `s` starts behind it. -/
def boundaryEscape (f : Flags) (whole s : List Char) : Except Stop (Atom × List Char) :=
  let plain : Atom := .look (.boundary f.unicode)
  match s with
  | '\x7b' :: inside =>
    match skip f.extended inside with
    | [] => stopIn .wordEnd whole []
    | c :: t =>
      if !isBoundaryChar c then .ok (plain, s)
      else
        let t := if f.extended then (c :: t).filter (fun c => !Text.isWhite c) else c :: t
        let name := t.takeWhile isBoundaryChar
        match t.dropWhile isBoundaryChar with
        | '\x7d' :: rest =>
          match wordBoundary? f.unicode (String.ofList name) with
          | some l => .ok (.look l, rest)
          | none => stopIn .wordUnknown (c :: t) ('\x7d' :: rest)
        | rest => stopIn .wordUnclosed s rest
  | s => .ok (plain, s)

/-- Characters that mean something of their own, and may be escaped. -/
def isMeta (c : Char) : Bool :=
  ['\\', '.', '+', '*', '?', '(', ')', '|', '[', ']', '\x7b', '\x7d', '^', '$', '#', '&', '-',
    '~'].contains c

/-- Other characters that may be escaped, to no effect. -/
def isEscapable (c : Char) : Bool :=
  c.toNat < 128 && !c.isAlphanum && c ≠ '<' && c ≠ '>'

/-- Reads an escape; `whole` starts at its backslash. -/
def escape (f : Flags) (whole : List Char) : Except Stop (Atom × List Char) :=
  match whole.drop 1 with
  | [] => stopIn .escapeEnd whole []
  | c :: s =>
    let u := f.unicode
    let named (rs : Ranges) (negated : Bool) : Except Stop (Atom × List Char) :=
      .ok (.set (if negated then negate u rs else rs), s)
    let char (n : Nat) : Except Stop (Atom × List Char) := .ok (.char (Char.ofNat n) false, s)
    if c.isDigit then stopIn .backReference whole s
    else
      match c with
      | 'x' => hexEscape f.extended whole c s
      | 'u' => hexEscape f.extended whole c s
      | 'U' => hexEscape f.extended whole c s
      | 'p' => unicodeEscape f whole false s
      | 'P' => unicodeEscape f whole true s
      | 'd' => named (digitSet u) false
      | 'D' => named (digitSet u) true
      | 's' => named (spaceSet u) false
      | 'S' => named (spaceSet u) true
      | 'w' => named (wordSetOf u) false
      | 'W' => named (wordSetOf u) true
      | 'a' => char 7
      | 'f' => char 12
      | 't' => char 9
      | 'n' => char 10
      | 'r' => char 13
      | 'v' => char 11
      | 'A' => .ok (.look .startText, s)
      | 'z' => .ok (.look .endText, s)
      | 'b' => boundaryEscape f whole s
      | 'B' => .ok (.look (.noBoundary u), s)
      | '<' => .ok (.look (.wordStart u), s)
      | '>' => .ok (.look (.wordEnd u), s)
      | c =>
        if isMeta c || isEscapable c then .ok (.char c false, s)
        else stopIn .escapeUnknown whole s

/-! ## 4. Sets between brackets -/

inductive SetOp where
  | inter
  | diff
  | symmDiff

def SetOp.apply : SetOp → Ranges → Ranges → Ranges
  | inter => Ranges.inter
  | diff => Ranges.diff
  | symmDiff => Ranges.symmDiff

/-- What stands before the set at hand: the set around it, or the left side of an operator. -/
inductive SetFrame where
  | around (parent : Ranges) (negated : Bool) (start inside : List Char)
  | left (op : SetOp) (lhs : Ranges)

/-- Takes dashes as themselves at the start of a set. -/
def leadingDashes (x : Bool) : Nat → Ranges → List Char → Ranges × List Char
  | fuel + 1, rs, '-' :: s => leadingDashes x fuel (('-'.toNat, '-'.toNat) :: rs) (skip x s)
  | _, rs, s => (rs, s)

/-- Reads the opening of a set, up to what cannot be mistaken for its end: whether it is
negated, and what it holds so far. -/
def openSet (x : Bool) (start : List Char) : Except Stop (Bool × Ranges × List Char) :=
  let s := skip x (start.drop 1)
  let (negated, s) : Bool × List Char :=
    match s with
    | '^' :: s => (true, skip x s)
    | s => (false, s)
  let (rs, s) := leadingDashes x s.length [] s
  let (rs, s) : Ranges × List Char :=
    match rs, s with
    | [], ']' :: s => ([(']'.toNat, ']'.toNat)], skip x s)
    | rs, s => (rs, s)
  if s.isEmpty then stopIn .classUnclosed start [] else .ok (negated, rs, s)

/-- Reads a set of ASCII characters between `[:` and `:]`, if there is one. -/
def asciiClass? (s : List Char) : Option (Bool × Ranges × List Char) :=
  match s with
  | '[' :: ':' :: s =>
    let (negated, s) : Bool × List Char :=
      match s with
      | '^' :: s => (true, s)
      | s => (false, s)
    match s.dropWhile (· ≠ ':') with
    | ':' :: ']' :: rest =>
      (asciiSet? (String.ofList (s.takeWhile (· ≠ ':')))).map fun rs => (negated, rs, rest)
    | _ => none
  | _ => none

/-- The fault of a set that is not closed: it shows at the innermost opening. -/
def unclosedSet {α : Type} (frames : List SetFrame) : Except Stop α :=
  let opening := frames.findSome? fun
    | .around _ _ start inside => some (start, inside)
    | .left _ _ => none
  match opening with
  | some (start, inside) => stopIn .classUnclosed start inside
  | none => stopIn .classUnclosed [] []

/-- Reads one item of a set: a character or an escape. -/
def setItem (f : Flags) (s : List Char) : Except Stop (Atom × List Char) :=
  match s with
  | '\\' :: _ => escape f s
  | c :: s => .ok (.char c false, s)
  | [] => stopIn .classUnclosed [] []

/-- The code point of a character in a set; `s` and `t` bound the characters that write it. -/
def setCode (f : Flags) (s t : List Char) : Atom → Except Stop Nat
  | .char c byte =>
    if !f.unicode && !byte && c.toNat > 127 then stopIn .unicodeNotAllowed s t else .ok c.toNat
  | _ => stopIn .classRangeEnd s t

/-- Reads an item of a set, or a range between two characters. -/
def setRange (f : Flags) (frames : List SetFrame) (s : List Char) :
    Except Stop (Ranges × List Char) := do
  let x := f.extended
  let (first, t) ← setItem f s
  let behind := skip x t
  let single : Except Stop (Ranges × List Char) :=
    match first with
    | .set rs => .ok (rs, behind)
    | .look _ => stopIn .classEscape s t
    | first => do
      let n ← setCode f s t first
      pure ([(n, n)], behind)
  match behind with
  | [] => unclosedSet frames
  | '-' :: after =>
    let after := skip x after
    match after with
    | [] => if x then unclosedSet frames else unclosedSet frames
    | ']' :: _ => single
    | '-' :: _ => single
    | after => do
      let (last, u) ← setItem f after
      let low ← setCode f s t first
      let high ← setCode f after u last
      if low ≤ high then pure ([(low, high)], u) else stopIn .classRange s u
  | _ => single

/-- Joins the set at hand with the left side of the operator before it, if there is one. -/
def closeOp (f : Flags) (rs : Ranges) : List SetFrame → Ranges × List SetFrame
  | .left op lhs :: frames => (op.apply (fold f lhs) (fold f rs), frames)
  | frames => (rs, frames)

/-- Reads what is inside brackets, up to the bracket that closes the outermost. -/
def setBody (f : Flags) : Nat → List SetFrame → Ranges → List Char →
    Except Stop (Ranges × List Char)
  | 0, frames, _, _ => unclosedSet frames
  | fuel + 1, frames, rs, s => do
    let x := f.extended
    let operator (op : SetOp) (s : List Char) : Except Stop (Ranges × List Char) :=
      let (lhs, frames) := closeOp f rs frames
      setBody f fuel (.left op lhs :: frames) [] s
    match skip x s with
    | [] => unclosedSet frames
    | '[' :: s =>
      match asciiClass? ('[' :: s) with
      | some (negated, qs, rest) =>
        let qs := fold f qs
        setBody f fuel frames (rs ++ if negated then negate f.unicode qs else qs) rest
      | none =>
        let (negated, qs, inside) ← openSet x ('[' :: s)
        setBody f fuel (.around rs negated ('[' :: s) inside :: frames) qs inside
    | ']' :: s =>
      let (all, frames) := closeOp f rs frames
      match frames with
      | .around parent negated _ _ :: outer =>
        let all := fold f all
        let all := if negated then negate f.unicode all else all.canonical
        if outer.isEmpty then pure (all, s) else setBody f fuel outer (parent ++ all) s
      | _ => stopIn .classUnclosed s s
    | '&' :: '&' :: s => operator .inter s
    | '-' :: '-' :: s => operator .diff s
    | '~' :: '~' :: s => operator .symmDiff s
    | s =>
      let (qs, t) ← setRange f frames s
      setBody f fuel frames (rs ++ qs) t

/-- A set as an expression; without Unicode it may hold ASCII characters only. -/
def setExpr (f : Flags) (whole t : List Char) (rs : Ranges) : Except Stop Regex :=
  if !f.unicode && rs.any (fun r => r.2 > 127) then stopIn .invalidUtf8 whole t
  else .ok (.set rs)

/-- Reads a set between brackets; `whole` starts at the opening one. -/
def bracketed (f : Flags) (whole : List Char) : Except Stop (Regex × List Char) := do
  let (negated, rs, inside) ← openSet f.extended whole
  let (rs, t) ← setBody f (2 * whole.length + 2) [.around [] negated whole inside] rs inside
  let r ← setExpr f whole t rs
  pure (r, t)

/-! ## 5. Expressions -/

/-- The part of an expression inside one pair of parentheses: finished alternatives and the
parts of the one at hand, both last first.  A change of flags leaves `none` among the parts. -/
structure Choices where
  alternatives : List Regex := []
  parts : List (Option Regex) := []

/-- The expression that parts make up in sequence, last part first. -/
def sequence (parts : List (Option Regex)) : Regex :=
  match parts.filterMap id with
  | [] => .empty
  | last :: before => before.foldl (fun r p => .seq p r) last

/-- The expression of finished alternatives and the parts of one more. -/
def Choices.finish (p : Choices) : Regex :=
  p.alternatives.foldl (fun r a => .alt a r) (sequence p.parts)

/-- An open parenthesis: what stood before it, with the flags in force there, and what it makes
of the expression inside. -/
structure Frame where
  before : Choices
  flags : Flags
  makes : Regex → Regex
  start : List Char

structure State where
  flags : Flags := {}
  here : Choices := {}
  frames : List Frame := []
  names : List (List Char) := []

/-- Adds a part to the alternative at hand. -/
def State.push (st : State) (r : Regex) : State :=
  { st with here := { st.here with parts := some r :: st.here.parts } }

/-- Characters in the name of a group. -/
def isNameChar (first : Bool) (c : Char) : Bool :=
  let letter := (Ranges.ofText Unicode.Property.alphabetic).mem c
  if first then c = '_' || letter
  else c = '_' || c = '.' || c = '[' || c = ']' || letter ||
    (categorySet? "n").any (·.mem c)

/-- Reads the name of a group up to the bracket that ends it. -/
def groupName (start : List Char) : List Char → List Char → Except Stop (List Char × List Char)
  | _, [] => stopIn .nameEnd start []
  | done, c :: s =>
    if c = '>' then
      if done.isEmpty then stopIn .nameEmpty (c :: s) (c :: s) else .ok (done.reverse, s)
    else if isNameChar done.isEmpty c then groupName start (c :: done) s
    else stopAt .nameCharacter (c :: s)

/-- Opens a parenthesis. -/
def State.open (st : State) (makes : Regex → Regex) (inner : Flags) (start : List Char) :
    State :=
  { st with
    flags := inner
    here := {}
    frames := ⟨st.here, st.flags, makes, start⟩ :: st.frames }

/-- Reads what opens a group, or a change of flags; `start` is at the parenthesis. -/
def openGroup (st : State) (start : List Char) : Except Stop (State × List Char) := do
  let inside := skip st.flags.extended (start.drop 1)
  let named (s : List Char) : Except Stop (State × List Char) := do
    let (name, t) ← groupName s [] s
    if st.names.contains name then stopIn .nameTwice s t
    else pure ({ st with names := name :: st.names }.open (.group true) st.flags start, t)
  let around (side : Side) (absent : Bool) (t : List Char) :
      Except Stop (State × List Char) :=
    if st.flags.lookAround then pure (st.open (.lookAt side absent) st.flags start, t)
    else stopIn .lookAround start t
  match inside with
  | '?' :: '=' :: t => around .ahead false t
  | '?' :: '!' :: t => around .ahead true t
  | '?' :: '<' :: '=' :: t => around .behind false t
  | '?' :: '<' :: '!' :: t => around .behind true t
  | '?' :: 'P' :: '<' :: s => named s
  | '?' :: '<' :: s => named s
  | '?' :: s =>
    if s.isEmpty then stopIn .groupUnclosed start (start.drop 1)
    else
      let (inner, seen, t) ← flagsFrom st.flags false [] s
      match t with
      | ')' :: t =>
        if seen.isEmpty then stopIn .repeatsNothing inside inside
        else
          pure ({ st with
            flags := inner
            here := { st.here with parts := none :: st.here.parts } }, t)
      | _ => pure (st.open (.group false) inner start, t.drop 1)
  | s => pure (st.open (.group true) st.flags start, s)

/-- Closes a parenthesis. -/
def closeGroup (st : State) (s : List Char) : Except Stop State :=
  match st.frames with
  | [] => stopAt .groupUnopened s
  | frame :: frames =>
    let made := frame.makes st.here.finish
    .ok ({ st with flags := frame.flags, here := frame.before, frames := frames }.push made)

/-- Reads a decimal number between blanks; nothing if there are no digits. -/
def decimal (x : Bool) (s : List Char) : Except Stop (Option Nat × List Char) :=
  let start := s.dropWhile Text.isWhite
  let rec digits (n : Nat) (any : Bool) : Nat → List Char → Option Nat × List Char
    | fuel + 1, c :: s =>
      if c.isDigit then digits (10 * n + (c.toNat - '0'.toNat)) true fuel (skip x s)
      else (if any then some n else none, c :: s)
    | _, s => (if any then some n else none, s)
  let (n, t) := digits 0 false start.length start
  if n.any (· ≥ Nat.pow 2 32) then stopIn .decimalInvalid start t
  else .ok (n, (t.dropWhile Text.isWhite))

/-- Reads a repetition between braces; `start` is at the opening one. -/
def counted (x : Bool) (start : List Char) : Except Stop (Nat × Option Nat × List Char) := do
  let inside := skip x (start.drop 1)
  if inside.isEmpty then stopIn .countUnclosed start []
  else
    let (low, t) ← decimal x inside
    let least : Except Stop Nat :=
      match low with
      | some n => .ok n
      | none => stopIn .countEmpty inside t
    let (min, max, t) ← match t with
      | [] => stopIn .countUnclosed start []
      | ',' :: t =>
        let t := skip x t
        match t with
        | [] => stopIn .countUnclosed start []
        | '\x7d' :: _ => do
          let n ← least
          pure (n, none, t)
        | _ => do
          let n ← least
          let (high, u) ← decimal x t
          match high with
          | some m => pure (n, some m, u)
          | none => stopIn .countEmpty t u
      | _ => do
        let n ← least
        pure (n, some n, t)
    match t with
    | '\x7d' :: t =>
      if max.any (· < min) then stopIn .countRange start t
      else
        let t := skip x t
        pure (min, max, match t with
          | '?' :: t => t
          | t => t)
    | _ => stopIn .countUnclosed start t

/-- Does a part look at a place only, or at nothing? -/
def standsStill : Regex → Bool
  | .empty => true
  | .look _ => true
  | .lookAt _ _ _ => true
  | .group false r => standsStill r
  | _ => false

/-- The last part, if it may be repeated, with the parts before it.  Where parentheses may look
around, what stands still may not be repeated. -/
def State.repeated? (st : State) : Option (Regex × List (Option Regex)) :=
  match st.here.parts with
  | some r :: parts => if st.flags.lookAround && standsStill r then none else some (r, parts)
  | _ => none

/-- Repeats the last part. -/
def State.repeat (st : State) (min : Nat) (max : Option Nat) (s : List Char) :
    Except Stop State :=
  match st.repeated? with
  | some (r, parts) =>
    .ok { st with here := { st.here with parts := some (.rep r min max) :: parts } }
  | none => stopIn .repeatsNothing s s

/-- Reads a part that is not made of other parts. -/
def primitive (f : Flags) (s : List Char) : Except Stop (Regex × List Char) := do
  match s with
  | [] => stopIn .escapeEnd [] []
  | '.' :: t =>
    let without : Ranges :=
      if f.dotAll then [] else if f.crlf then [(10, 10), (13, 13)] else [(10, 10)]
    if f.unicode then pure (.set (Ranges.complement without), t)
    else stopIn .invalidUtf8 s t
  | '^' :: t =>
    pure (.look (if f.multiLine then .startLine f.crlf else .startText), t)
  | '$' :: t => pure (.look (if f.multiLine then .endLine f.crlf else .endText), t)
  | '\\' :: _ =>
    let (atom, t) ← escape f s
    match atom with
    | .look l => pure (.look l, t)
    | .set rs =>
      let r ← setExpr f s t rs
      pure (r, t)
    | .char c byte =>
      if !f.unicode && byte && c.toNat > 127 then stopIn .invalidUtf8 s t
      else pure (.set (fold f [(c.toNat, c.toNat)]), t)
  | c :: t => pure (.set (fold f [(c.toNat, c.toNat)]), t)

/-- Reads an expression to its end.  Each round consumes a character. -/
def expression : Nat → State → List Char → Except Stop Regex
  | 0, _, s => stopIn .groupUnclosed s s
  | fuel + 1, st, s => do
    let s := skip st.flags.extended s
    let lazy (t : List Char) : List Char :=
      match t with
      | '?' :: t => t
      | t => t
    match s with
    | [] =>
      match st.frames with
      | [] => pure st.here.finish
      | frame :: _ => stopAt .groupUnclosed frame.start
    | '(' :: _ =>
      let (st, t) ← openGroup st s
      expression fuel st t
    | ')' :: t =>
      let st ← closeGroup st s
      expression fuel st t
    | '|' :: t =>
      let here : Choices :=
        { alternatives := sequence st.here.parts :: st.here.alternatives, parts := [] }
      expression fuel { st with here := here } t
    | '[' :: _ =>
      let (r, t) ← bracketed st.flags s
      expression fuel (st.push r) t
    | '?' :: t =>
      let st ← st.repeat 0 (some 1) s
      expression fuel st (lazy t)
    | '*' :: t =>
      let st ← st.repeat 0 none s
      expression fuel st (lazy t)
    | '+' :: t =>
      let st ← st.repeat 1 none s
      expression fuel st (lazy t)
    | '\x7b' :: _ =>
      if st.repeated?.isNone then stopIn .repeatsNothing s s
      else
        let (min, max, t) ← counted st.flags.extended s
        let st ← st.repeat min max s
        expression fuel st t
    | s =>
      let (r, t) ← primitive st.flags s
      expression fuel (st.push r) t

/-! ## 6. Nesting -/

/-- The kind of expression around another. -/
inductive Around where
  | seq
  | alt
  | other
deriving DecidableEq

/-- How deep an expression nests; a sequence counts once, and so do alternatives. -/
def nesting (around : Around) : Regex → Nat
  | .empty => 0
  | .set _ => 0
  | .look _ => 0
  | .lookAt _ _ r => nesting .other r + 1
  | .group _ r => nesting .other r + 1
  | .rep r _ _ => nesting .other r + 1
  | .seq a b => max (nesting .other a) (nesting .seq b) + if around = .seq then 0 else 1
  | .alt a b => max (nesting .other a) (nesting .alt b) + if around = .alt then 0 else 1

/-- Reads a regular expression, in which parentheses may look around or may not. -/
def parse (pattern : List Char) (lookAround : Bool := false) : Except Stop Regex := do
  let r ← expression (pattern.length + 1) { flags := { lookAround } } pattern
  if nesting .other r > maxNesting then stopIn .tooDeep pattern [] else pure r

end Reshape.Regex
