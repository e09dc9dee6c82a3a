/-
# Scalars of YAML

A scalar is plain, quoted or a block.  Plain and quoted scalars may go on over several lines:
the gap between two words of one is written as it is within a line, and folded if it holds
breaks (`Gap.text`).  A block scalar is a header and the lines that are indented below it
(`Block.scan`).

Each scan starts at the first character of a scalar and answers its text and the cursor
behind it.  The loops pass at least one character in each round, so the characters that are
left bound them.
-/
import Reshape.Text.Digits
import Reshape.Yaml.Error

namespace Reshape.Yaml

/-- The start of a construct, for its faults. -/
abbrev Context := Option (Construct × Mark)

/-- Fails at a cursor. -/
def failAt {α : Type} (c : Cursor) (problem : Problem) (context : Context) : Except Error α :=
  .error (.syntaxError problem c.mark context)

/-! ## 1. Gaps between words -/

/-- What stands between two words of a scalar. -/
structure Gap where
  /-- The blanks before any break. -/
  blanks : List Char := []
  /-- Has a line ended? -/
  broken : Bool := false
  /-- The first break; empty if it was escaped. -/
  firstBreak : List Char := []
  /-- The breaks behind the first. -/
  moreBreaks : List Char := []

namespace Gap

/-- A gap as it stands in the text of the scalar.  A single line feed is a space, and a line
feed before other breaks is nothing. -/
def text (g : Gap) : List Char :=
  if !g.broken then g.blanks
  else if g.firstBreak == ['\n'] then
    if g.moreBreaks.isEmpty then [' '] else g.moreBreaks
  else g.firstBreak ++ g.moreBreaks

/-- A gap with one more break. -/
def addBreak (b : List Char) (g : Gap) : Gap :=
  if g.broken then { g with moreBreaks := g.moreBreaks ++ b }
  else { broken := true, firstBreak := b }

/-- A gap with one more blank; blanks that start a line are not kept. -/
def addBlank (b : Char) (g : Gap) : Gap :=
  if g.broken then g else { g with blanks := g.blanks ++ [b] }

/-- Reads on over blanks and breaks.  A blank that `forbidden` refuses is a fault. -/
def scan (forbidden : Gap → Cursor → Bool) (problem : Problem) (context : Context) :
    Nat → Gap → Cursor → Except Error (Gap × Cursor)
  | 0, g, c => .ok (g, c)
  | fuel + 1, g, c =>
    match c.rest with
    | b :: _ =>
      if isBlank b then
        if forbidden g c then failAt c problem context
        else scan forbidden problem context fuel (g.addBlank b) c.next
      else if isBreak b then
        let (text, c) := c.newline
        scan forbidden problem context fuel (g.addBreak text) c
      else .ok (g, c)
    | [] => .ok (g, c)

end Gap

/-! ## 2. Plain scalars -/

namespace Plain

/-- A plain scalar: its text, the cursor behind the blanks that follow it, and whether a line
ended there. -/
structure Scanned where
  text : String
  behind : Cursor
  lineEnded : Bool

/-- The characters that bound items in a flow collection. -/
def isFlowMark (c : Char) : Bool := c == ',' || c == '[' || c == ']' || c == '\x7b' || c == '\x7d'

/-- Does the scalar end in front of these characters? -/
def endsBefore (inFlow : Bool) : List Char → Bool
  | [] => true
  | ':' :: rest => blankOrEnd rest
  | c :: _ => isBlank c || isBreak c || (inFlow && isFlowMark c)

/-- Is a colon here too close to a mark of the flow? -/
def colonAtMark (inFlow : Bool) : List Char → Bool
  | ':' :: d :: _ => inFlow && (isFlowMark d || d == '?')
  | _ => false

/-- Reads the characters of a word, last first onto `word`. -/
def scanWord (inFlow : Bool) (context : Context) :
    Nat → List Char → Cursor → Except Error (List Char × Cursor)
  | 0, word, c => .ok (word, c)
  | fuel + 1, word, c =>
    if colonAtMark inFlow c.rest then failAt c .colonInPlainScalar context
    else
      match c.rest with
      | d :: _ =>
        if endsBefore inFlow c.rest then .ok (word, c)
        else scanWord inFlow context fuel (d :: word) c.next
      | [] => .ok (word, c)

/-- The scalar that ends with the gap `g`; `text` holds its characters, last first. -/
def finish (text : List Char) (g : Gap) (c : Cursor) : Scanned :=
  ⟨String.ofList text.reverse, c, g.broken⟩

/-- Reads words and the gaps between them; `text` holds what is before the gap `g`, last
first. -/
def scanWords (inFlow : Bool) (indent : Nat) (context : Context) :
    Nat → List Char → Gap → Cursor → Except Error Scanned
  | 0, text, g, c => .ok (finish text g c)
  | fuel + 1, text, g, c => do
    if c.atBounds || c.head? == some '#' then return finish text g c
    let (word, c') ← scanWord inFlow context (c.limit + 1) [] c
    let (text, g) := if word.isEmpty then (text, g) else (word ++ g.text.reverse ++ text, {})
    let tabs (g : Gap) (c : Cursor) : Bool :=
      g.broken && c.column < indent && c.head? == some '\t'
    let (g', c'') ← Gap.scan tabs .tabInPlainScalar context (c.limit + 1) g c'
    if c''.mark.index == c'.mark.index then return finish text g' c''
    if !inFlow && c''.column < indent then return finish text g' c''
    scanWords inFlow indent context fuel text g' c''

/-- Reads a plain scalar whose further lines have at least `indent` blanks in front. -/
def scan (inFlow : Bool) (indent : Nat) (c : Cursor) : Except Error Scanned :=
  scanWords inFlow indent (some (.plainScalar, c.mark)) (c.limit + 1) [] {} c

end Plain

/-! ## 3. Quoted scalars -/

namespace Quoted

/-- The character that a letter stands for behind a backslash. -/
def named? (c : Char) : Option Char :=
  match c with
  | '0' => some '\x00'
  | 'a' => some '\x07'
  | 'b' => some '\x08'
  | 't' => some '\t'
  | '\t' => some '\t'
  | 'n' => some '\n'
  | 'v' => some '\x0b'
  | 'f' => some '\x0c'
  | 'r' => some '\r'
  | 'e' => some '\x1b'
  | ' ' => some ' '
  | '"' => some '"'
  | '/' => some '/'
  | '\\' => some '\\'
  | 'N' => some (Char.ofNat 0x85)
  | '_' => some (Char.ofNat 0xA0)
  | 'L' => some (Char.ofNat 0x2028)
  | 'P' => some (Char.ofNat 0x2029)
  | _ => none

/-- The number of hexadecimal digits behind a letter behind a backslash. -/
def codeLength? (c : Char) : Option Nat :=
  match c with
  | 'x' => some 2
  | 'u' => some 4
  | 'U' => some 8
  | _ => none

/-- Reads an escape, from the backslash on. -/
def scanEscape (start : Mark) (c : Cursor) : Except Error (Char × Cursor) :=
  let context : Context := some (.escape, start)
  match c.rest with
  | _ :: letter :: rest =>
    match named? letter, codeLength? letter with
    | some d, _ => .ok (d, c.skip 2)
    | none, some length =>
      let digits := rest.take length
      match (if digits.length = length then Text.number? 16 digits else none) with
      | none => failAt (c.skip 2) .escapeDigits context
      | some n =>
        if n.isValidChar then .ok (Char.ofNat n, c.skip (length + 2))
        else failAt (c.skip 2) .escapeCode context
    | none, none => failAt c .unknownEscape context
  | _ => failAt c .unknownEscape context

/-- A word of a quoted scalar: its characters, last first, the cursor behind it, and whether
it ended with an escaped break. -/
structure Word where
  chars : List Char
  behind : Cursor
  escapedBreak : Bool

/-- Reads characters up to a blank, a break or the closing quote, last first onto `word`. -/
def scanWord (single : Bool) (start : Mark) :
    Nat → List Char → Cursor → Except Error Word
  | 0, word, c => .ok ⟨word, c, false⟩
  | fuel + 1, word, c =>
    if blankOrEnd c.rest then .ok ⟨word, c, false⟩
    else
      match single, c.rest with
      | true, '\'' :: '\'' :: _ => scanWord single start fuel ('\'' :: word) (c.skip 2)
      | true, '\'' :: _ => .ok ⟨word, c, false⟩
      | false, '"' :: _ => .ok ⟨word, c, false⟩
      | false, '\\' :: b :: _ =>
        if isBreak b then .ok ⟨word, c.next.newline.2, true⟩
        else do
          let (d, c) ← scanEscape start c
          scanWord single start fuel (d :: word) c
      | false, '\\' :: [] => failAt c .unknownEscape (some (.escape, start))
      | _, d :: _ => scanWord single start fuel (d :: word) c.next
      | _, [] => .ok ⟨word, c, false⟩

/-- Reads words and the gaps between them, up to the closing quote; `text` holds what is
before, last first. -/
def scanWords (single : Bool) (start : Mark) :
    Nat → List Char → Cursor → Except Error (String × Cursor)
  | 0, _, c => failAt c .endInQuotedScalar (some (.quotedScalar, start))
  | fuel + 1, text, c => do
    let context : Context := some (.quotedScalar, start)
    if c.atBounds then failAt c .boundsInQuotedScalar context
    if c.rest.isEmpty then failAt c .endInQuotedScalar context
    let word ← scanWord single start (c.limit + 1) [] c
    let text := word.chars ++ text
    if word.behind.head? == some (if single then '\'' else '"') then
      return (String.ofList text.reverse, word.behind.next)
    let gap : Gap := if word.escapedBreak then { broken := true } else {}
    let (gap, c) ← Gap.scan (fun _ _ => false) .endInQuotedScalar context
      (c.limit + 1) gap word.behind
    scanWords single start fuel (gap.text.reverse ++ text) c

/-- Reads a quoted scalar, from the opening quote on. -/
def scan (single : Bool) (c : Cursor) : Except Error (String × Cursor) :=
  scanWords single c.mark (c.limit + 1) [] c.next

end Quoted

/-! ## 4. Block scalars -/

namespace Block

/-- What becomes of the breaks at the end of a block scalar. -/
inductive Chomping where
  /-- All are dropped. -/
  | strip
  /-- The first is kept. -/
  | clip
  /-- All are kept. -/
  | keep
deriving DecidableEq, Repr

/-- The chomping that a character indicates. -/
def chomping? : Option Char → Option Chomping
  | some '+' => some .keep
  | some '-' => some .strip
  | _ => none

/-- The header of a block scalar: the chomping, and the indent if it is given. -/
structure Header where
  chomping : Chomping
  indent : Option Nat

/-- Reads an indent indicator, if there is one. -/
def scanIndent (context : Context) (c : Cursor) : Except Error (Option Nat × Cursor) :=
  match c.head? with
  | some d =>
    if d == '0' then failAt c .indentZero context
    else if d.isDigit then .ok (some (Text.decimal [d]), c.next)
    else .ok (none, c)
  | none => .ok (none, c)

/-- Reads the indicators of a header, in either order. -/
def scanIndicators (context : Context) (c : Cursor) : Except Error (Header × Cursor) :=
  match chomping? c.head? with
  | some chomping => do
    let (indent, c) ← scanIndent context c.next
    pure (⟨chomping, indent⟩, c)
  | none => do
    let (indent, c) ← scanIndent context c
    match indent, chomping? c.head? with
    | some n, some chomping => pure (⟨chomping, some n⟩, c.next)
    | indent, _ => pure (⟨.clip, indent⟩, c)

/-- Passes the blanks and the comment that may end a line, and its break. -/
def skipLineEnd (problem : Problem) (context : Context) (c : Cursor) : Except Error Cursor := do
  let c := c.skipWhile isBlank
  let c := if c.head? == some '#' then c.skipWhile (!isBreak ·) else c
  if !breakOrEnd c.rest then failAt c problem context
  pure c.newline.2

/-- Reads the blank lines in front of a line, up to its first character behind the indent.
`indent` is none while it is to be found; `widest` is the longest run of spaces so far.
Answers the breaks, the widest run and the cursor. -/
def scanBreaks (indent : Option Nat) (context : Context) :
    Nat → List Char → Nat → Cursor → Except Error (List Char × Nat × Cursor)
  | 0, breaks, widest, c => .ok (breaks, widest, c)
  | fuel + 1, breaks, widest, c =>
    let spaces := (c.rest.takeWhile (· == ' ')).length
    let c := c.skip (match indent with
      | some n => min spaces (n - c.column)
      | none => spaces)
    let widest := max widest c.column
    let short := match indent with
      | some n => c.column < n
      | none => true
    if short && c.head? == some '\t' then failAt c .tabInBlockScalar context
    else
      match c.head? with
      | some b =>
        if isBreak b then
          let (text, c) := c.newline
          scanBreaks indent context fuel (breaks ++ text) widest c
        else .ok (breaks, widest, c)
      | none => .ok (breaks, widest, c)

/-- What has been read of a block scalar. -/
structure Progress where
  /-- The text, last character first. -/
  text : List Char := []
  /-- The break that ended the last line. -/
  lineBreak : List Char := []
  /-- The breaks of the blank lines behind it. -/
  moreBreaks : List Char := []
  /-- Did the last line start with a blank? -/
  blankLine : Bool := false

/-- What stands between the last line and the next: in a folded scalar a single line feed
between two lines that start with no blank is a space, or nothing before blank lines. -/
def Progress.gap (folded nextBlank : Bool) (p : Progress) : List Char :=
  if folded && p.lineBreak == ['\n'] && !p.blankLine && !nextBlank then
    if p.moreBreaks.isEmpty then [' '] else p.moreBreaks
  else p.lineBreak ++ p.moreBreaks

/-- Reads the lines that start in the column `indent`. -/
def scanLines (folded : Bool) (indent : Nat) (context : Context) :
    Nat → Progress → Cursor → Except Error (Progress × Cursor)
  | 0, p, c => .ok (p, c)
  | fuel + 1, p, c =>
    if c.column ≠ indent || c.rest.isEmpty then .ok (p, c)
    else do
      let blank := (c.head?.map isBlank).getD false
      let (line, c) := c.takeWhile (!isBreak ·)
      let (lineBreak, c) := c.newline
      let (moreBreaks, _, c) ← scanBreaks (some indent) context (c.limit + 1) [] 0 c
      let text := line.reverse ++ (p.gap folded blank).reverse ++ p.text
      scanLines folded indent context fuel
        { text := text, lineBreak := lineBreak, moreBreaks := moreBreaks, blankLine := blank } c

/-- The text of a block scalar under a chomping. -/
def Progress.finish (chomping : Chomping) (p : Progress) : String :=
  let tail := match chomping with
    | .strip => []
    | .clip => p.lineBreak
    | .keep => p.lineBreak ++ p.moreBreaks
  String.ofList (p.text.reverse ++ tail)

/-- Reads a block scalar, from its indicator on; `parent` is the indent of the collection
around it, if any. -/
def scan (folded : Bool) (parent : Option Nat) (c : Cursor) : Except Error (String × Cursor) := do
  let context : Context := some (.blockScalar, c.mark)
  let (header, c) ← scanIndicators context c.next
  let c ← skipLineEnd .scalarHeader context c
  let given := header.indent.map (parent.getD 0 + ·)
  let (breaks, widest, c) ← scanBreaks given context (c.limit + 1) [] 0 c
  let least := (parent.map (· + 1)).getD 0
  let indent := given.getD (max 1 (max widest least))
  let (p, c) ← scanLines folded indent context (c.limit + 1) { moreBreaks := breaks } c
  pure (p.finish header.chomping, c)

end Block

end Reshape.Yaml
