/-
# Nodes of YAML

A document is a tree of nodes: scalars, sequences, mappings and aliases, where the first
three may have an anchor and a tag.  `Document.ofTokens` reads one document from the tokens of
a text and refuses a second one.

The functions of section 3 follow the grammar of the tokens.  Every call of one of them passes
a token or is followed by one that does, so twice the number of tokens bounds their nesting.
-/
import Reshape.Entries
import Reshape.Yaml.Token

namespace Reshape.Yaml

/-! ## 1. Trees -/

/-- What may stand in front of a node, and where the node starts. -/
structure Properties where
  mark : Mark
  anchor : Option String := none
  tag : Option String := none
deriving Repr, Inhabited

inductive Node where
  | alias (mark : Mark) (name : String)
  | scalar (ps : Properties) (plain : Bool) (text : String)
  | sequence (ps : Properties) (items : List Node)
  | mapping (ps : Properties) (entries : List (Node × Node))
deriving Inhabited

/-- The empty scalar, which stands where nothing is written. -/
def Node.empty (mark : Mark) : Node := .scalar { mark := mark } true ""

/-! ## 2. Streams of tokens -/

/-- The tokens that are left, and the fault behind them. -/
structure Stream where
  tokens : List Token
  fault : Option Error

namespace Stream

/-- The next token. -/
def peek (s : Stream) : Except Error Token :=
  match s.tokens with
  | t :: _ => .ok t
  | [] => .error (s.fault.getD (.syntaxError .contentMissing .start none))

/-- The stream behind the next token. -/
def next (s : Stream) : Stream := { s with tokens := s.tokens.tail }

end Stream

/-- Fails at a token. -/
def failToken {α : Type} (t : Token) (problem : Problem) (context : Context) : Except Error α :=
  .error (.syntaxError problem t.mark context)

/-! ## 3. Nodes -/

/-- What the handles of tags stand for. -/
abbrev TagHandles := Entries String

/-- The tag that is written by a handle and a suffix. -/
def resolveTag (handles : TagHandles) (start : Mark) (t : Token) (tag : Tag.Shorthand) :
    Except Error String :=
  if tag.handle.isEmpty then .ok tag.suffix
  else
    match handles.get? tag.handle with
    | some head => .ok (head ++ tag.suffix)
    | none => failToken t .tagHandleUndefined (some (.node, start))

/-- Reads an anchor and a tag, in either order. -/
def readProperties (handles : TagHandles) (s : Stream) : Except Error (Properties × Stream) := do
  let t ← s.peek
  let start := t.mark
  match t.kind with
  | .anchor name =>
    let s := s.next
    let t ← s.peek
    match t.kind with
    | .tag tag => do
      let tag ← resolveTag handles start t tag
      pure (⟨start, some name, some tag⟩, s.next)
    | _ => pure (⟨start, some name, none⟩, s)
  | .tag tag =>
    let tag ← resolveTag handles start t tag
    let s := s.next
    let t ← s.peek
    match t.kind with
    | .anchor name => pure (⟨start, some name, some tag⟩, s.next)
    | _ => pure (⟨start, none, some tag⟩, s)
  | _ => pure (⟨start, none, none⟩, s)

/-- Does a token end an item of a block collection? -/
def endsBlockItem : TokenKind → Bool
  | .key => true
  | .value => true
  | .blockEnd => true
  | _ => false

/-- Does a token end an item of a flow sequence? -/
def endsSequenceItem : TokenKind → Bool
  | .flowEntry => true
  | .flowSequenceEnd => true
  | _ => false

/-- Does a token end an entry of a flow mapping? -/
def endsMappingItem : TokenKind → Bool
  | .flowEntry => true
  | .flowMappingEnd => true
  | _ => false

/-- The only tag that says nothing about a scalar. -/
def plainTag : String := "!"

mutual

/-- Reads a node.  `block` tells whether it may be a block collection, and `dashes` whether
it may be a sequence whose dashes are not indented. -/
def readNode (handles : TagHandles) (block dashes : Bool) :
    Nat → Stream → Except Error (Node × Stream)
  | 0, s => do failToken (← s.peek) .contentMissing none
  | fuel + 1, s => do
    let t ← s.peek
    if let .alias name := t.kind then return (.alias t.mark name, s.next)
    let (ps, s) ← readProperties handles s
    let t ← s.peek
    match t.kind with
    | .blockEntry =>
      if dashes then
        let (items, s) ← readDashes handles fuel [] s
        pure (.sequence ps items, s)
      else noContent block ps t s
    | .scalar plain text =>
      let ps := if ps.tag == some plainTag then { ps with tag := none } else ps
      pure (.scalar ps plain text, s.next)
    | .flowSequenceStart =>
      let (items, s) ← readFlowSequence handles t.mark fuel [] s.next
      pure (.sequence ps items, s)
    | .flowMappingStart =>
      let (entries, s) ← readFlowMapping handles t.mark fuel [] s.next
      pure (.mapping ps entries, s)
    | .blockSequenceStart =>
      if block then
        let (items, s) ← readBlockSequence handles t.mark fuel [] s.next
        pure (.sequence ps items, s)
      else noContent block ps t s
    | .blockMappingStart =>
      if block then
        let (entries, s) ← readBlockMapping handles t.mark fuel [] s.next
        pure (.mapping ps entries, s)
      else noContent block ps t s
    | _ => noContent block ps t s

/-- A node without content, which an anchor or a tag must announce. -/
def noContent (block : Bool) (ps : Properties) (t : Token) (s : Stream) :
    Except Error (Node × Stream) :=
  if ps.anchor.isSome || ps.tag.isSome then .ok (.scalar ps true "", s)
  else failToken t .contentMissing (some (if block then .blockNode else .flowNode, ps.mark))

/-- Reads an item of a block collection, which may be missing. -/
def readBlockItem (handles : TagHandles) (dashes : Bool) :
    Nat → Stream → Except Error (Node × Stream)
  | 0, s => do failToken (← s.peek) .contentMissing none
  | fuel + 1, s => do
    let t ← s.peek
    if endsBlockItem t.kind then pure (.empty t.mark, s)
    else readNode handles true dashes fuel s

/-- Reads the items of a block sequence; `items` are those before, last first. -/
def readBlockSequence (handles : TagHandles) (start : Mark) :
    Nat → List Node → Stream → Except Error (List Node × Stream)
  | 0, _, s => do failToken (← s.peek) .dashMissing none
  | fuel + 1, items, s => do
    let t ← s.peek
    match t.kind with
    | .blockEntry =>
      let s := s.next
      let t ← s.peek
      let (item, s) ←
        if t.kind = .blockEntry ∨ t.kind = .blockEnd then pure (Node.empty t.mark, s)
        else readNode handles true false fuel s
      readBlockSequence handles start fuel (item :: items) s
    | .blockEnd => pure (items.reverse, s.next)
    | _ => failToken t .dashMissing (some (.blockCollection, start))

/-- Reads the items of a sequence whose dashes are not indented. -/
def readDashes (handles : TagHandles) :
    Nat → List Node → Stream → Except Error (List Node × Stream)
  | 0, _, s => do failToken (← s.peek) .dashMissing none
  | fuel + 1, items, s => do
    let t ← s.peek
    match t.kind with
    | .blockEntry =>
      let s := s.next
      let t ← s.peek
      let (item, s) ←
        if t.kind = .blockEntry then pure (Node.empty t.mark, s)
        else readBlockItem handles false fuel s
      readDashes handles fuel (item :: items) s
    | _ => pure (items.reverse, s)

/-- Reads the entries of a block mapping. -/
def readBlockMapping (handles : TagHandles) (start : Mark) :
    Nat → List (Node × Node) → Stream → Except Error (List (Node × Node) × Stream)
  | 0, _, s => do failToken (← s.peek) .keyMissing none
  | fuel + 1, entries, s => do
    let t ← s.peek
    match t.kind with
    | .key =>
      let (key, s) ← readBlockItem handles true fuel s.next
      let t ← s.peek
      let (value, s) ←
        if t.kind = .value then readBlockItem handles true fuel s.next
        else pure (Node.empty t.mark, s)
      readBlockMapping handles start fuel ((key, value) :: entries) s
    | .blockEnd => pure (entries.reverse, s.next)
    | _ => failToken t .keyMissing (some (.blockMapping, start))

/-- Reads the only entry of a mapping that stands bare in a flow sequence, behind the
indicator of its key.  A key that is missing takes the token in its place with it. -/
def readPair (handles : TagHandles) : Nat → Stream → Except Error ((Node × Node) × Stream)
  | 0, s => do failToken (← s.peek) .contentMissing none
  | fuel + 1, s => do
    let t ← s.peek
    let (key, s) ←
      if t.kind = .value ∨ endsSequenceItem t.kind then pure (Node.empty t.mark, s.next)
      else readNode handles false false fuel s
    let t ← s.peek
    if t.kind = .value then
      let s := s.next
      let t ← s.peek
      let (value, s) ←
        if endsSequenceItem t.kind then pure (Node.empty t.mark, s)
        else readNode handles false false fuel s
      pure ((key, value), s)
    else pure ((key, .empty t.mark), s)

/-- Reads the items of a flow sequence. -/
def readFlowSequence (handles : TagHandles) (start : Mark) :
    Nat → List Node → Stream → Except Error (List Node × Stream)
  | 0, _, s => do failToken (← s.peek) .sequenceEndMissing none
  | fuel + 1, items, s => do
    let t ← s.peek
    if t.kind = .flowSequenceEnd then return (items.reverse, s.next)
    let s ←
      if items.isEmpty then pure s
      else if t.kind = .flowEntry then pure s.next
      else failToken t .sequenceEndMissing (some (.flowSequence, start))
    let t ← s.peek
    match t.kind with
    | .flowSequenceEnd => pure (items.reverse, s.next)
    | .key =>
      let (entry, s) ← readPair handles fuel s.next
      readFlowSequence handles start fuel (.mapping { mark := t.mark } [entry] :: items) s
    | _ =>
      let (item, s) ← readNode handles false false fuel s
      readFlowSequence handles start fuel (item :: items) s

/-- Reads the entries of a flow mapping. -/
def readFlowMapping (handles : TagHandles) (start : Mark) :
    Nat → List (Node × Node) → Stream → Except Error (List (Node × Node) × Stream)
  | 0, _, s => do failToken (← s.peek) .mappingEndMissing none
  | fuel + 1, entries, s => do
    let t ← s.peek
    if t.kind = .flowMappingEnd then return (entries.reverse, s.next)
    let s ←
      if entries.isEmpty then pure s
      else if t.kind = .flowEntry then pure s.next
      else failToken t .mappingEndMissing (some (.flowMapping, start))
    let t ← s.peek
    match t.kind with
    | .flowMappingEnd => pure (entries.reverse, s.next)
    | .key =>
      let s := s.next
      let t ← s.peek
      let (key, s) ←
        if t.kind = .value ∨ endsMappingItem t.kind then pure (Node.empty t.mark, s)
        else readNode handles false false fuel s
      let t ← s.peek
      if t.kind = .value then
        let s := s.next
        let t ← s.peek
        let (value, s) ←
          if endsMappingItem t.kind then pure (Node.empty t.mark, s)
          else readNode handles false false fuel s
        readFlowMapping handles start fuel ((key, value) :: entries) s
      else readFlowMapping handles start fuel ((key, .empty t.mark) :: entries) s
    | _ =>
      let (key, s) ← readNode handles false false fuel s
      readFlowMapping handles start fuel ((key, .empty t.mark) :: entries) s

end

/-! ## 4. Documents -/

namespace Document

/-- The handles that every document may use. -/
def commonHandles : TagHandles := [("!", "!"), ("!!", "tag:yaml.org,2002:")]

/-- What the directives of a document say. -/
structure Head where
  versioned : Bool := false
  handles : TagHandles := []

/-- A head with one more directive. -/
def Head.add (t : Token) (h : Head) : Directive → Except Error Head
  | .version major minor =>
    if h.versioned then failToken t .versionRepeated none
    else if major = 1 ∧ (minor = 1 ∨ minor = 2) then .ok { h with versioned := true }
    else failToken t .versionUnsupported none
  | .tagHandle handle start =>
    if h.handles.contains handle then failToken t .tagPrefixRepeated none
    else .ok { h with handles := h.handles ++ [(handle, start)] }

/-- Reads the directives of a document. -/
def readHead : Nat → Head → Stream → Except Error (Head × Stream)
  | 0, h, s => .ok (h, s)
  | fuel + 1, h, s => do
    let t ← s.peek
    match t.kind with
    | .directive d => do
      let h ← h.add t d
      readHead fuel h s.next
    | _ => pure (h, s)

/-- Does a token end a document without content? -/
def endsDocument : TokenKind → Bool
  | .directive _ => true
  | .documentStart => true
  | .documentEnd => true
  | .streamEnd => true
  | _ => false

/-- Reads the root of the first document, if there is one. -/
def readRoot (s : Stream) : Except Error (Option Node × Stream) := do
  let fuel := 2 * s.tokens.length + 8
  let t ← s.peek
  match t.kind with
  | .streamEnd => pure (none, s)
  | .documentStart => explicit fuel {} s
  | .directive _ => do
    let (h, s) ← readHead fuel {} s
    explicit fuel h s
  | _ => do
    let (root, s) ← readNode commonHandles true false fuel s
    pure (some root, s)
where
  /-- Reads a document behind its directives. -/
  explicit (fuel : Nat) (h : Head) (s : Stream) : Except Error (Option Node × Stream) := do
    let t ← s.peek
    if t.kind ≠ .documentStart then failToken t .documentStartMissing none
    let s := s.next
    let t ← s.peek
    if endsDocument t.kind then pure (some (.empty t.mark), s)
    else do
      let (root, s) ← readNode (h.handles ++ commonHandles) true false fuel s
      pure (some root, s)

/-- Passes the marks behind a document, to the end of the stream. -/
def readEnd : Nat → Stream → Except Error Unit
  | 0, _ => .error .severalDocuments
  | fuel + 1, s =>
    match s.tokens with
    | t :: _ =>
      match t.kind with
      | .documentEnd => readEnd fuel s.next
      | .streamEnd => .ok ()
      | _ => .error .severalDocuments
    | [] => .error .severalDocuments

/-- The root of the only document of a text, if there is one. -/
def ofTokens (ts : Tokens) : Except Error (Option Node) := do
  let (root, s) ← readRoot ⟨ts.tokens, ts.fault⟩
  match root with
  | none => pure none
  | some root => do
    readEnd (s.tokens.length + 1) s
    pure (some root)

end Document

end Reshape.Yaml
