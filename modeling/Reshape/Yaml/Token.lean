/-
# Tokens of YAML

A text is cut into tokens with the indentation made explicit: where a line is indented
further a block starts, and where it is indented less blocks end.  A key without an indicator
is known as one only when its colon comes; the tokens that mark the key, and the block it
starts, are then put in front of it.  Until then a place where a key may have started is kept
as a `Candidate`, one for each level of flow collections.

`Lexer.step` produces the next token.  `Tokens.ofText` runs it to the end of the text, or to
the first fault, and keeps the tokens before it.
-/
import Reshape.Yaml.Tag

namespace Reshape.Yaml

/-! ## 1. Tokens -/

inductive TokenKind where
  | directive (d : Directive)
  | documentStart
  | documentEnd
  | blockSequenceStart
  | blockMappingStart
  | blockEnd
  | flowSequenceStart
  | flowSequenceEnd
  | flowMappingStart
  | flowMappingEnd
  | blockEntry
  | flowEntry
  | key
  | value
  | alias (name : String)
  | anchor (name : String)
  | tag (t : Tag.Shorthand)
  | scalar (plain : Bool) (text : String)
  | streamEnd
deriving DecidableEq, Repr

/-- A token and the place where it starts. -/
structure Token where
  kind : TokenKind
  mark : Mark
deriving Repr

/-- A place where a key may have started. -/
structure Candidate where
  mark : Mark
  /-- Must it be a key? -/
  required : Bool
  /-- The number of tokens in front of it. -/
  position : Nat

/-! ## 2. State -/

/-- The state between two tokens. -/
structure Lexer where
  cursor : Cursor
  tokens : Array Token := #[]
  /-- The indents of the blocks around, innermost first. -/
  indents : List Nat := []
  /-- The key that may have started on each level of flow collections, innermost first, the
  level outside them last. -/
  candidates : List (Option Candidate) := [none]
  /-- May a key start here? -/
  keyAllowed : Bool := true
  finished : Bool := false

namespace Lexer

variable (l : Lexer)

/-- Is the place within a flow collection? -/
def inFlow : Bool := l.candidates.length > 1

/-- The indent of the block around. -/
def indent? : Option Nat := l.indents.head?

/-- Is a column indented further than the block around? -/
def isDeeper (column : Nat) : Bool :=
  match l.indent? with
  | some n => n < column
  | none => true

/-- The key that may have started on this level. -/
def candidate? : Option Candidate := l.candidates.head?.join

/-- Replaces the key that may have started on this level. -/
def setCandidate (k : Option Candidate) : Lexer :=
  { l with candidates := k :: l.candidates.tail }

/-- Adds a token that starts at a place. -/
def push (kind : TokenKind) (mark : Mark) : Lexer :=
  { l with tokens := l.tokens.push ⟨kind, mark⟩ }

/-- Adds a token of a number of characters here. -/
def pushHere (kind : TokenKind) (width : Nat) : Lexer :=
  { l.push kind l.cursor.mark with cursor := l.cursor.skip width }

/-- Puts a token in front of those from a position on. -/
def putBefore (position : Nat) (kind : TokenKind) (mark : Mark) : Lexer :=
  { l with tokens := l.tokens.insertIdxIfInBounds position ⟨kind, mark⟩ }

/-! ## 3. Indentation -/

/-- Starts a block here if the column is indented further than the block around. -/
def openBlock (kind : TokenKind) : Lexer :=
  let c := l.cursor
  if l.inFlow || !l.isDeeper c.column then l
  else { l.push kind c.mark with indents := c.column :: l.indents }

/-- Starts a block in front of a key that started earlier. -/
def openBlockBefore (k : Candidate) : Lexer :=
  if l.inFlow || !l.isDeeper k.mark.column then l
  else
    { l.putBefore k.position .blockMappingStart k.mark with
      indents := k.mark.column :: l.indents }

/-- Ends the blocks that are indented further than a column; `none` ends all. -/
def closeBlocks (column : Option Nat) : Lexer :=
  if l.inFlow then l
  else
    let deeper (n : Nat) : Bool := match column with
      | some m => m < n
      | none => true
    let closed := l.indents.takeWhile deeper
    { l with
      tokens := closed.foldl (fun ts _ => ts.push ⟨.blockEnd, l.cursor.mark⟩) l.tokens,
      indents := l.indents.dropWhile deeper }

/-! ## 4. Keys without indicators -/

/-- How many characters a key without an indicator may span. -/
def keySpan : Nat := 1024

/-- The fault of a key without its colon. -/
def colonMissing (k : Candidate) : Except Error α :=
  failAt l.cursor .keyWithoutColon (some (.simpleKey, k.mark))

/-- Is a key that may have started out of reach of its colon? -/
def isStale (k : Candidate) : Bool :=
  k.mark.line < l.cursor.mark.line || k.mark.index + keySpan < l.cursor.mark.index

/-- Gives up the keys that are out of reach, on every level. -/
def dropStale : Except Error Lexer := do
  let candidates ← l.candidates.mapM fun
    | some k =>
      if !l.isStale k then pure (some k)
      else if k.required then l.colonMissing k
      else pure none
    | none => pure none
  pure { l with candidates := candidates }

/-- Gives up the key that may have started on this level. -/
def dropCandidate : Except Error Lexer :=
  match l.candidate? with
  | some k => if k.required then l.colonMissing k else pure (l.setCandidate none)
  | none => pure l

/-- Notes that a key may start here. -/
def noteCandidate : Except Error Lexer := do
  if !l.keyAllowed then return l
  let required := !l.inFlow && l.indent? == some l.cursor.column
  let l' ← l.dropCandidate
  pure (l'.setCandidate (some ⟨l.cursor.mark, required, l.tokens.size⟩))

/-! ## 5. Blanks and comments -/

/-- Passes blanks, comments and breaks.  Tabs count as blanks where no block may start, and a
byte order mark does in front of the whole text, where it takes up a column. -/
def skipBlanks : Nat → Lexer → Lexer
  | 0, l => l
  | fuel + 1, l =>
    let c := l.cursor
    let c := if c.mark.index = 0 ∧ c.head? = some '\uFEFF' then c.next else c
    let tabs := l.inFlow || !l.keyAllowed
    let c := c.skipWhile fun d => d == ' ' || (tabs && d == '\t')
    let c := if c.head? == some '#' then c.skipWhile (!isBreak ·) else c
    match c.head? with
    | some b =>
      if isBreak b then
        skipBlanks fuel
          { l with cursor := c.newline.2, keyAllowed := l.keyAllowed || !l.inFlow }
      else { l with cursor := c }
    | none => { l with cursor := c }

/-! ## 6. One token -/

/-- The end of the text. -/
def finish : Except Error Lexer := do
  let m := l.cursor.mark
  let m := if m.column = 0 then m else { m with line := m.line + 1, column := 0 }
  let l := { l with cursor := { l.cursor with mark := m } }
  let l ← (l.closeBlocks none).dropCandidate
  pure { l.push .streamEnd m with keyAllowed := false, finished := true }

/-- A directive. -/
def directive : Except Error Lexer := do
  let l ← (l.closeBlocks none).dropCandidate
  let (d, c) ← Directive.scan l.cursor
  pure { l.push (.directive d) l.cursor.mark with cursor := c, keyAllowed := false }

/-- A bound of a document. -/
def documentBound (kind : TokenKind) : Except Error Lexer := do
  let l ← (l.closeBlocks none).dropCandidate
  pure { l.pushHere kind 3 with keyAllowed := false }

/-- The start of a flow collection. -/
def openFlow (kind : TokenKind) : Except Error Lexer := do
  let l ← l.noteCandidate
  pure { l.pushHere kind 1 with candidates := none :: l.candidates, keyAllowed := true }

/-- The end of a flow collection. -/
def closeFlow (kind : TokenKind) : Except Error Lexer := do
  let l ← l.dropCandidate
  let outer := if l.inFlow then l.candidates.tail else l.candidates
  pure { l.pushHere kind 1 with candidates := outer, keyAllowed := false }

/-- The comma in a flow collection. -/
def flowEntry : Except Error Lexer := do
  let l ← l.dropCandidate
  pure { l.pushHere .flowEntry 1 with keyAllowed := true }

/-- The dash of an item of a block sequence. -/
def blockEntry : Except Error Lexer := do
  if !l.inFlow && !l.keyAllowed then failAt l.cursor .blockEntryNotAllowed none
  let l ← (l.openBlock .blockSequenceStart).dropCandidate
  pure { l.pushHere .blockEntry 1 with keyAllowed := true }

/-- The indicator of a key. -/
def key : Except Error Lexer := do
  if !l.inFlow && !l.keyAllowed then failAt l.cursor .keyNotAllowed none
  let l ← (l.openBlock .blockMappingStart).dropCandidate
  pure { l.pushHere .key 1 with keyAllowed := !l.inFlow }

/-- The colon in front of a value. -/
def value : Except Error Lexer := do
  match l.candidate? with
  | some k =>
    let l := ((l.putBefore k.position .key k.mark).openBlockBefore k).setCandidate none
    pure { l.pushHere .value 1 with keyAllowed := false }
  | none =>
    if !l.inFlow && !l.keyAllowed then failAt l.cursor .valueNotAllowed none
    let l := l.openBlock .blockMappingStart
    pure { l.pushHere .value 1 with keyAllowed := !l.inFlow }

/-- A name behind an indicator. -/
def named (kind : String → TokenKind) : Except Error Lexer := do
  let l ← l.noteCandidate
  let (name, c) ← scanAnchor l.cursor
  pure { l.push (kind name) l.cursor.mark with cursor := c, keyAllowed := false }

/-- A tag. -/
def tag : Except Error Lexer := do
  let l ← l.noteCandidate
  let (t, c) ← Tag.scan l.inFlow l.cursor
  pure { l.push (.tag t) l.cursor.mark with cursor := c, keyAllowed := false }

/-- A block scalar. -/
def blockScalar (folded : Bool) : Except Error Lexer := do
  let l ← l.dropCandidate
  let (text, c) ← Block.scan folded l.indent? l.cursor
  pure { l.push (.scalar false text) l.cursor.mark with cursor := c, keyAllowed := true }

/-- A quoted scalar. -/
def quotedScalar (single : Bool) : Except Error Lexer := do
  let l ← l.noteCandidate
  let (text, c) ← Quoted.scan single l.cursor
  pure { l.push (.scalar false text) l.cursor.mark with cursor := c, keyAllowed := false }

/-- A plain scalar. -/
def plainScalar : Except Error Lexer := do
  let l ← l.noteCandidate
  let indent := (l.indent?.map (· + 1)).getD 0
  let s ← Plain.scan l.inFlow indent l.cursor
  pure
    { l.push (.scalar true s.text) l.cursor.mark with
      cursor := s.behind, keyAllowed := s.lineEnded }

/-- The characters that a plain scalar does not start with. -/
def isIndicator (c : Char) : Bool :=
  ['-', '?', ':', ',', '[', ']', '\x7b', '\x7d', '#', '&', '*', '!', '|', '>', '\'', '"', '%',
    '@', '\x60'].contains c

/-- May a plain scalar start with these characters? -/
def startsPlain : List Char → Bool
  | [] => false
  | c :: rest =>
    if isBlank c || isBreak c then false
    else if !isIndicator c then true
    else if c == '-' then !(rest.head?.map isBlank).getD false
    else !l.inFlow && (c == '?' || c == ':') && !blankOrEnd rest

/-- The token that starts with the character `d` in front of `rest`. -/
def dispatch (d : Char) (rest : List Char) : Except Error Lexer :=
  let c := l.cursor
  if c.column == 0 && d == '%' then l.directive
  else if c.atMarker '-' then l.documentBound .documentStart
  else if c.atMarker '.' then l.documentBound .documentEnd
  else
    match d with
    | '[' => l.openFlow .flowSequenceStart
    | '\x7b' => l.openFlow .flowMappingStart
    | ']' => l.closeFlow .flowSequenceEnd
    | '\x7d' => l.closeFlow .flowMappingEnd
    | ',' => l.flowEntry
    | '*' => l.named .alias
    | '&' => l.named .anchor
    | '!' => l.tag
    | '\'' => l.quotedScalar true
    | '"' => l.quotedScalar false
    | d =>
      if d == '-' && blankOrEnd rest then l.blockEntry
      else if d == '?' && (l.inFlow || blankOrEnd rest) then l.key
      else if d == ':' && (l.inFlow || blankOrEnd rest) then l.value
      else if d == '|' && !l.inFlow then l.blockScalar false
      else if d == '>' && !l.inFlow then l.blockScalar true
      else if l.startsPlain c.rest then l.plainScalar
      else failAt c .cannotStartToken (some (.nextToken, c.mark))

/-- Produces the next token. -/
def step : Except Error Lexer := do
  let l := skipBlanks (l.cursor.limit + 1) l
  let l ← l.dropStale
  let l := l.closeBlocks (some l.cursor.column)
  match l.cursor.rest with
  | [] => l.finish
  | d :: rest => l.dispatch d rest

end Lexer

/-! ## 7. Token streams -/

/-- The tokens of a text, up to its end or to the first fault. -/
structure Tokens where
  tokens : List Token
  fault : Option Error

namespace Tokens

/-- Produces tokens until the text ends. -/
def run : Nat → Lexer → Tokens
  | 0, l => ⟨l.tokens.toList, none⟩
  | fuel + 1, l =>
    if l.finished then ⟨l.tokens.toList, none⟩
    else
      match l.step with
      | .ok l' => run fuel l'
      | .error e => ⟨l.tokens.toList, some e⟩

/-- The number of bytes in front of the first character that may not stand in a text. -/
def firstForbidden (bytes : Nat) : List Char → Option Nat
  | [] => none
  | c :: cs => if isAllowed c then firstForbidden (bytes + c.utf8Size) cs else some bytes

/-- The tokens of a text. -/
def ofText (s : String) : Tokens :=
  match firstForbidden 0 s.toList with
  | some offset => ⟨[], some (.controlCharacter offset)⟩
  | none => run (s.length + 2) { cursor := .ofText s }

end Tokens

end Reshape.Yaml
