/-
# Lower and upper case of texts

Every character has a lower and an upper case, mostly one character and itself at that, but
now and then several (`ß` goes up to `SS`).  A text is mapped character by character, except
that a capital sigma at the end of a word goes down to the final form `ς`: it stands after a
cased character and before none, case-ignorable characters being passed over on both sides.
-/
import Reshape.Unicode.CaseTable
import Reshape.Unicode.Property
import Reshape.Unicode.Ranges

namespace Reshape.Unicode

/-! ## 1. Characters -/

/-- Is a code point one of the run? -/
def CaseRun.holds (r : CaseRun) (n : Nat) : Bool :=
  r.first ≤ n && n ≤ r.last && (n - r.first) % r.step == 0

/-- Where a run takes a code point. -/
def CaseRun.move (r : CaseRun) (n : Nat) : Char := Char.ofNat ((n : Int) + r.delta).toNat

/-- The case of a character by its tables: itself if it is in neither. -/
def caseOf (runs : List CaseRun) (strings : List (Nat × List Nat)) (c : Char) : List Char :=
  match strings.find? (fun e => e.1 == c.toNat) with
  | some e => e.2.map Char.ofNat
  | none =>
    match runs.find? (fun r => r.holds c.toNat) with
    | some r => [r.move c.toNat]
    | none => [c]

/-- The lower case of a character. -/
def lower (c : Char) : List Char :=
  if c.toNat < 128 then [c.toLower] else caseOf lowerRuns lowerStrings c

/-- The upper case of a character. -/
def upper (c : Char) : List Char :=
  if c.toNat < 128 then [c.toUpper] else caseOf upperRuns upperStrings c

/-! ## 2. The end of a word -/

/-- The cased characters. -/
def casedSet : Ranges := Ranges.ofText Property.cased

/-- The case-ignorable characters. -/
def caseIgnorableSet : Ranges := Ranges.ofText Property.caseIgnorable

/-- Is the first character that is not case-ignorable a cased one? -/
def startsCased (cs : List Char) : Bool :=
  match cs.dropWhile caseIgnorableSet.mem with
  | c :: _ => casedSet.mem c
  | [] => false

/-- Does a sigma end a word, between the characters before it, last first, and those after
it? -/
def endsWord (before after : List Char) : Bool := startsCased before && !startsCased after

/-! ## 3. Texts -/

/-- The lower case of characters that stand behind `before`, last first. -/
def lowerAfter (before : List Char) : List Char → List Char
  | [] => []
  | c :: cs =>
    let down := if c = 'Σ' then [if endsWord before cs then 'ς' else 'σ'] else lower c
    down ++ lowerAfter (c :: before) cs

end Reshape.Unicode

namespace Reshape.Text

/-- The lower case of a text. -/
def lowercase (s : String) : String := String.ofList (Unicode.lowerAfter [] s.toList)

/-- The upper case of a text. -/
def uppercase (s : String) : String := String.ofList (s.toList.flatMap Unicode.upper)

end Reshape.Text
