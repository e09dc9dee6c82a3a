/-
# Regular expressions and where they match

A regular expression is matched against places of a text: a place is a number of characters
from the start.  `Regex.ends` takes a list of places at which matching may begin and answers
the places at which it may end, both sorted.  A text matches if some place begins a match
(`Regex.isMatch`); how greedy a repetition is makes no difference to that.

A repetition needs no more rounds than the text has places: each further round would stand
still or come back to a place already reached.
-/
import Reshape.Unicode.Category
import Reshape.Unicode.Property
import Reshape.Unicode.Ranges

namespace Reshape

/-! ## 1. Expressions -/

/-- A condition on a place. -/
inductive Look where
  | startText
  | endText
  /-- At the start of the text or behind a line break; with `crlf`, a carriage return and a
  line feed each end a line, and together one. -/
  | startLine (crlf : Bool)
  | endLine (crlf : Bool)
  | boundary (unicode : Bool)
  | noBoundary (unicode : Bool)
  | wordStart (unicode : Bool)
  | wordEnd (unicode : Bool)
  | wordStartHalf (unicode : Bool)
  | wordEndHalf (unicode : Bool)
deriving DecidableEq, Repr

/-- The side of a place on which something is looked for. -/
inductive Side where
  | ahead
  | behind
deriving DecidableEq, Repr

inductive Regex where
  | empty
  | set (rs : Unicode.Ranges)
  | look (l : Look)
  /-- The expression matches from a place on, or up to it; if `absent`, it does not. -/
  | lookAt (side : Side) (absent : Bool) (r : Regex)
  /-- Parentheses, which may or may not capture what they match. -/
  | group (captures : Bool) (r : Regex)
  | seq (a b : Regex)
  | alt (a b : Regex)
  /-- At least `min` times, and at most `max` times if that is given. -/
  | rep (r : Regex) (min : Nat) (max : Option Nat)
deriving Repr

namespace Regex

/-! ## 2. Words -/

/-- The characters of words: letters, marks, decimal digits, connecting punctuation and
joiners. -/
def wordSet : Unicode.Ranges :=
  Unicode.Ranges.canonical <|
    [Unicode.Property.alphabetic, Unicode.Category.nonspacingMark, Unicode.Category.spacingMark,
      Unicode.Category.enclosingMark, Unicode.Category.decimalNumber,
      Unicode.Category.connectorPunctuation, Unicode.Property.joinControl].flatMap
      Unicode.Ranges.ofText

/-- Is a character one of a word? -/
def isWordChar (unicode : Bool) (c : Char) : Bool :=
  if c.toNat < 128 then c.isAlphanum || c = '_' else unicode && wordSet.mem c

/-! ## 3. Matching -/

/-- Does the condition hold at a place? -/
def lookHolds (text : Array Char) (p : Nat) (l : Look) : Bool :=
  let before := if p = 0 then none else text[p - 1]?
  let after := text[p]?
  let word (unicode : Bool) (c : Option Char) := c.any (isWordChar unicode)
  match l with
  | .startText => p == 0
  | .endText => p == text.size
  | .startLine crlf =>
    match before with
    | none => true
    | some c => c = '\n' || (crlf && c = '\r' && after ≠ some '\n')
  | .endLine crlf =>
    match after with
    | none => true
    | some c => if crlf then c = '\r' || (c = '\n' && before ≠ some '\r') else c = '\n'
  | .boundary u => word u before != word u after
  | .noBoundary u => word u before == word u after
  | .wordStart u => !word u before && word u after
  | .wordEnd u => word u before && !word u after
  | .wordStartHalf u => !word u before
  | .wordEndHalf u => !word u after

/-- The places in either of two sorted lists. -/
def mergePlaces (ps qs : List Nat) : List Nat :=
  (ps.merge qs).eraseReps

/-- `f` applied a number of times, until there is nothing left to apply it to. -/
def iterate (f : List Nat → List Nat) : Nat → List Nat → List Nat
  | 0, ps => ps
  | n + 1, ps => if ps.isEmpty then [] else iterate f n (f ps)

/-- The places reached by applying `f` at most a number of times. -/
def reach (f : List Nat → List Nat) : Nat → List Nat → List Nat
  | 0, ps => ps
  | n + 1, ps =>
    let qs := mergePlaces ps (f ps)
    if qs.length = ps.length then ps else reach f n qs

/-- The places at which a match may end that begins at one of the given places. -/
def ends (text : Array Char) : Regex → List Nat → List Nat
  | empty, ps => ps
  | set rs, ps => ps.filterMap fun p => if text[p]?.any rs.mem then some (p + 1) else none
  | look l, ps => ps.filter fun p => lookHolds text p l
  | lookAt side absent r, ps =>
    ps.filter fun p =>
      let seen := match side with
        | .ahead => !(ends text r [p]).isEmpty
        | .behind => (ends text r (List.range (p + 1))).contains p
      seen != absent
  | group _ r, ps => ends text r ps
  | seq a b, ps => ends text b (ends text a ps)
  | alt a b, ps => mergePlaces (ends text a ps) (ends text b ps)
  | rep r min max, ps =>
    let rounds := text.size + 1
    let least := iterate (ends text r) (Nat.min min rounds) ps
    let further := match max with
      | none => rounds
      | some m => Nat.min (m - min) rounds
    reach (ends text r) further least

/-- Does the expression match somewhere in a text? -/
def isMatch (r : Regex) (s : String) : Bool :=
  let text := s.toList.toArray
  !(ends text r (List.range (text.size + 1))).isEmpty

end Regex

end Reshape
