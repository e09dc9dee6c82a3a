/-
# How large an expression grows

Counted repetitions multiply an expression, so a short text can ask for a huge automaton.
`Regex.size` counts the bytes of an automaton over UTF-8 for an expression: one state for
each byte of a character and for each choice, and several for a set of characters beyond
ASCII, which takes a tree of byte ranges.  The tree is counted in both reading directions:
forwards, equal subtrees are shared; backwards, only common beginnings are.
-/
import Reshape.Regex.Basic

namespace Reshape.Regex

open Unicode (Ranges)

/-! ## 1. Byte ranges of a set -/

/-- The bytes of a code point in UTF-8. -/
def utf8Bytes (n : Nat) : List Nat :=
  if n < 0x80 then [n]
  else if n < 0x800 then [0xC0 + n / 64, 0x80 + n % 64]
  else if n < 0x10000 then [0xE0 + n / 4096, 0x80 + n / 64 % 64, 0x80 + n % 64]
  else [0xF0 + n / 262144, 0x80 + n / 4096 % 64, 0x80 + n / 64 % 64, 0x80 + n % 64]

/-- Where a range of code points has to be cut so that its bytes vary independently: the
first code point behind the cut. -/
def cutPlace? (lo hi : Nat) : Option Nat :=
  let crossing := [0x80, 0x800, 0x10000].find? fun b => lo < b && b ≤ hi
  match crossing with
  | some b => some b
  | none =>
    if hi < 0x80 then none
    else
      [64, 4096, 262144].findSome? fun block =>
        if lo / block = hi / block then none
        else if lo % block ≠ 0 then some ((lo / block + 1) * block)
        else if hi % block ≠ block - 1 then some (hi / block * block)
        else none

/-- The sequences of byte ranges that write a range of code points. -/
def byteRanges : Nat → Nat → Nat → List (List (Nat × Nat))
  | 0, _, _ => []
  | fuel + 1, lo, hi =>
    match cutPlace? lo hi with
    | some b => byteRanges fuel lo (b - 1) ++ byteRanges fuel b hi
    | none => [(utf8Bytes lo).zip (utf8Bytes hi)]

/-- The sequences of byte ranges that write a set, without the surrogates. -/
def setByteRanges (rs : Ranges) : List (List (Nat × Nat)) :=
  (Ranges.diff rs [(0xD800, 0xDFFF)]).flatMap fun r => byteRanges 32 r.1 r.2

/-! ## 2. Trees of byte ranges -/

/-- The number of different beginnings of sequences, the empty one aside; sequences with a
common beginning stand together. -/
def beginnings : List (Nat × Nat) → List (List (Nat × Nat)) → Nat
  | _, [] => 0
  | before, s :: rest =>
    let common := ((before.zip s).takeWhile fun p => p.1 == p.2).length
    s.length - common + beginnings s rest

/-- Groups sequences by their first range. -/
def byFirst : List (List (Nat × Nat)) → List ((Nat × Nat) × List (List (Nat × Nat)))
  | [] => []
  | [] :: rest => byFirst rest
  | (r :: s) :: rest =>
    match byFirst rest with
    | (q, ss) :: groups => if q = r then (r, s :: ss) :: groups else (r, [s]) :: (q, ss) :: groups
    | [] => [(r, [s])]

/-- The sequences of every node of a tree, the root's last; a node is known by its
sequences. -/
def treeNodes : Nat → List (List (Nat × Nat)) → List (List (List (Nat × Nat)))
  | 0, _ => []
  | depth + 1, seqs =>
    if seqs.all List.isEmpty then []
    else (byFirst seqs).flatMap (fun g => treeNodes depth g.2) ++ [seqs]

/-! ## 3. Sizes -/

/-- Bytes of a state. -/
def stateSize : Nat := 32

/-- Bytes of the automaton for a set, reading forwards. -/
def setSizeForward (rs : Ranges) : Nat :=
  let rs := rs.canonical
  match rs with
  | [(a, b)] => if a = b then (utf8Bytes a).length * stateSize else many rs
  | rs => many rs
where
  many (rs : Ranges) : Nat :=
    if rs.all fun r => r.2 < 128 then 2 * stateSize + 8 * rs.length
    else
      let nodes := (treeNodes 4 (setByteRanges rs)).eraseDups
      stateSize + (nodes.map fun n => stateSize + 8 * (byFirst n).length).foldr (· + ·) 0

/-- Bytes of the automaton for a set, reading backwards. -/
def setSizeBackward (rs : Ranges) : Nat :=
  let rs := rs.canonical
  match rs with
  | [(a, b)] => if a = b then (utf8Bytes a).length * stateSize else many rs
  | rs => many rs
where
  many (rs : Ranges) : Nat :=
    if rs.all fun r => r.2 < 128 then 2 * stateSize + 8 * rs.length
    else
      let seqs := setByteRanges rs
      (beginnings [] seqs + 2) * stateSize + 4 * seqs.length

/-- An upper bound for either. -/
def setSizeBound (rs : Ranges) : Nat := 4096 + 1024 * rs.length

/-- Can the expression match the empty text only? -/
def onlyEmpty : Regex → Bool
  | empty => true
  | set _ => false
  | look _ => true
  | lookAt _ _ _ => true
  | group _ r => onlyEmpty r
  | seq a b => onlyEmpty a && onlyEmpty b
  | alt a b => onlyEmpty a && onlyEmpty b
  | rep r _ max => onlyEmpty r || max == some 0

/-- Bytes of the automaton for an expression, by the bytes for its sets and for a capture. -/
def size (ofSet : Ranges → Nat) (ofCapture : Nat) : Regex → Nat
  | empty => stateSize
  | set rs => ofSet rs
  | look _ => stateSize
  | lookAt _ _ r => size ofSet ofCapture r + stateSize
  | group captures r => size ofSet ofCapture r + if captures then ofCapture else 0
  | seq a b => size ofSet ofCapture a + size ofSet ofCapture b
  | alt a b => size ofSet ofCapture a + size ofSet ofCapture b + stateSize
  | rep r min max =>
    let one := size ofSet ofCapture r
    let (min, max) := if onlyEmpty r then (Nat.min min 1, some 1) else (min, max)
    match max with
    | none => Nat.max min 1 * one + 2 * stateSize
    | some m => m * one + (m - min) * (stateSize + 8) + stateSize

/-- The largest size that is accepted. -/
def sizeLimit : Nat := 10 * Nat.pow 2 20

/-- Does the expression grow beyond the limit? -/
def tooBig (r : Regex) : Bool :=
  if size setSizeBound (2 * stateSize) r ≤ sizeLimit then false
  else size setSizeForward (2 * stateSize) r > sizeLimit || size setSizeBackward 0 r > sizeLimit

end Reshape.Regex
