/-
# What plain scalars of YAML stand for

A plain scalar without a tag is null, a Boolean, a number or a text, by the core schema of
YAML 1.2: numbers may be written with base marks, a number does not start with a superfluous
zero, and what is not finite has its own spellings.
-/
import Reshape.Json.Basic
import Reshape.Text.Digits
import Reshape.Yaml.Error

namespace Reshape.Yaml

/-! ## 1. Null and Booleans -/

/-- Is a text one of the spellings of null? -/
def isNullWord (s : String) : Bool := ["null", "Null", "NULL", "~"].contains s

/-- The Boolean that a text spells. -/
def boolWord? (s : String) : Option Bool :=
  if ["true", "True", "TRUE"].contains s then some true
  else if ["false", "False", "FALSE"].contains s then some false
  else none

/-! ## 2. Whole numbers -/

/-- A sign, and what is behind it. -/
def splitSign : List Char → Bool × List Char
  | '-' :: cs => (true, cs)
  | '+' :: cs => (false, cs)
  | cs => (false, cs)

/-- Is a text, behind its sign, a number with a superfluous zero in front? -/
def hasSuperfluousZero (cs : List Char) : Bool :=
  match (splitSign cs).2 with
  | '0' :: d :: ds => (d :: ds).all Char.isDigit
  | _ => false

/-- The whole number that digits write, with a base mark or without. -/
def magnitude? : List Char → Option Nat
  | '0' :: 'x' :: ds => Text.number? 16 ds
  | '0' :: 'o' :: ds => Text.number? 8 ds
  | '0' :: 'b' :: ds => Text.number? 2 ds
  | ds => Text.number? 10 ds

/-- The whole number that a text writes, whatever its size. -/
def integer? (cs : List Char) : Option Int :=
  if hasSuperfluousZero cs then none
  else
    let (negative, ds) := splitSign cs
    (magnitude? ds).map fun n => if negative then -(n : Int) else n

/-- The whole numbers that a value may hold. -/
def isHeld (n : Int) : Bool := -(Nat.pow 2 63 : Int) ≤ n && n < Nat.pow 2 64

/-- The whole numbers that are too big for a value, and yet are taken for whole numbers; any
other may still be a floating-point number. -/
def isWhole (n : Int) : Bool := -(Nat.pow 2 127 : Int) ≤ n && n < Nat.pow 2 128

/-! ## 3. Floating-point numbers -/

/-- What a text without a sign writes as a floating-point number: digits with a point
somewhere, and an exponent. -/
def decimal? (cs : List Char) : Option (List Char × List Char × Int) := do
  let whole := cs.takeWhile Char.isDigit
  let cs := cs.dropWhile Char.isDigit
  let (fraction, cs) := match cs with
    | '.' :: cs => (cs.takeWhile Char.isDigit, cs.dropWhile Char.isDigit)
    | cs => ([], cs)
  if whole.isEmpty && fraction.isEmpty then none
  match cs with
  | [] => some (whole, fraction, 0)
  | e :: cs =>
    if e ≠ 'e' ∧ e ≠ 'E' then none
    else
      let (negative, ds) := splitSign cs
      let n ← Text.number? 10 ds
      some (whole, fraction, if negative then -(n : Int) else n)

/-- A floating-point number that a text may write. -/
inductive FloatWord where
  | finite (x : Binary64)
  /-- Infinite, or not a number at all. -/
  | notFinite

/-- The floating-point number that a text writes. -/
def float? (s : String) : Option FloatWord :=
  if [".inf", ".Inf", ".INF", "+.inf", "+.Inf", "+.INF", "-.inf", "-.Inf", "-.INF",
      ".nan", ".NaN", ".NAN"].contains s then some .notFinite
  else
    let (negative, cs) := splitSign s.toList
    match decimal? cs with
    | some (whole, fraction, exponent) =>
      (Binary64.ofDecimal? negative (Text.decimal (whole ++ fraction))
        (exponent - fraction.length)).map .finite
    | none => none

/-- The value of a floating-point number; what is not finite has none. -/
def FloatWord.value : FloatWord → Json
  | .finite x => .float x
  | .notFinite => .null

/-! ## 4. Scalars -/

/-- The value of a text that is a whole number. -/
def wholeValue? (s : String) : Option (Except Complaint Json) :=
  ((integer? s.toList).filter isWhole).map fun n =>
    if isHeld n then .ok (.int n) else .error .numberOutOfRange

/-- The value of a plain scalar without a tag. -/
def plainValue (s : String) : Except Complaint Json :=
  if s.isEmpty || isNullWord s then .ok .null
  else
    match boolWord? s, wholeValue? s with
    | some b, _ => .ok (.bool b)
    | none, some v => v
    | none, none =>
      if hasSuperfluousZero s.toList then .ok (.str s)
      else .ok ((float? s).elim (.str s) FloatWord.value)

/-- The value of a text under a tag that demands a kind of scalar; any other tag demands
nothing. -/
def taggedValue? (tag s : String) : Option (Except Complaint Json) :=
  let demand (kind : String) (v : Option Json) : Option (Except Complaint Json) :=
    some (v.elim (.error (.notOfKind s kind)) .ok)
  if tag = "tag:yaml.org,2002:bool" then demand "a boolean" ((boolWord? s).map .bool)
  else if tag = "tag:yaml.org,2002:int" then
    some ((wholeValue? s).getD (.error (.notOfKind s "an integer")))
  else if tag = "tag:yaml.org,2002:float" then demand "a float" ((float? s).map FloatWord.value)
  else if tag = "tag:yaml.org,2002:null" then
    demand "null" (if isNullWord s then some .null else none)
  else none

end Reshape.Yaml
