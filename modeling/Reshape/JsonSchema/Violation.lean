/-
# Violations of a JSON Schema

A violation is a place in a value, what stands there, and what is wrong with it.  Places are
written as JSON pointers, in which a tilde and a slash within a key have escapes.
-/
import Reshape.Json.Printer
import Reshape.JsonSchema.Basic
import Reshape.Location

namespace Reshape.JsonSchema

/-! ## 1. Pointers -/

/-- A character of a key in a pointer. -/
def escapeChar (c : Char) : List Char :=
  if c = '~' then ['~', '0'] else if c = '/' then ['~', '1'] else [c]

/-- A step in a pointer. -/
def stepPointer : Step → String
  | .key k => "/" ++ String.ofList (k.toList.flatMap escapeChar)
  | .index i => "/" ++ toString i

/-- A place as a pointer. -/
def pointer (l : Location) : String := String.join (l.map stepPointer)

/-! ## 2. Problems -/

/-- What is wrong with a value. -/
inductive Problem where
  | kinds (ks : List Kind)
  | options (vs : List Json)
  | constant (v : Json)
  | bound (b : Bound) (limit : Json)
  | multipleOf (n : Json)
  | tooFew (m : Measure) (least : Nat)
  | tooMany (m : Measure) (most : Nat)
  | pattern (source : String)
  | notUnique
  | missing (name : String)
  | unexpected (names : List String)
  /-- There are entries for which no schema speaks. -/
  | unevaluatedProperties (names : List String)
  /-- There are items for which no schema speaks. -/
  | unevaluatedItems (items : List Json)
  /-- Nothing is allowed here. -/
  | forbidden
  | containsNone
  /-- Allowed by no schema of a list, which a keyword names. -/
  | noneOf (keyword : String)
  | severalOf
  | negated (source : Json)
  /-- A text is no regular expression. -/
  | notRegex
deriving DecidableEq

/-- A number of things that are counted. -/
def Measure.count (m : Measure) (n : Nat) : String :=
  match m, n == 1 with
  | characters, true => s!"{n} character"
  | characters, false => s!"{n} characters"
  | items, true => s!"{n} item"
  | items, false => s!"{n} items"
  | properties, true => s!"{n} property"
  | properties, false => s!"{n} properties"

/-- Numbers are written positionally, whole ones without a point, where a divisor is named. -/
def divisorLayout : Layout where
  leastPlace := -400
  greatestPlace := 400
  exponentMark := "e"
  plusSign := ""
  wholeEnd := ""

/-- The text of a divisor. -/
def divisorText (n : Json) : String :=
  match n.toBinary64? with
  | some x => x.text divisorLayout
  | none => n.compact

/-- The relation to a bound that a number should not have. -/
def Bound.breach : Bound → String
  | minimum => "less than the minimum of"
  | maximum => "greater than the maximum of"
  | exclusiveMinimum => "less than or equal to the minimum of"
  | exclusiveMaximum => "greater than or equal to the maximum of"

/-- What stands behind the word on things that were not expected: a list of them. -/
def unexpectedList (things : List String) : String :=
  " (" ++ ", ".intercalate (things.map fun t => "'" ++ t ++ "'") ++
    (if things.length = 1 then " was" else " were") ++ " unexpected)"

/-- The wording of a problem with a value. -/
def Problem.message (subject : Json) : Problem → String
  | kinds [k] => s!"{subject.compact} is not of type \"{k.name}\""
  | kinds ks =>
    s!"{subject.compact} is not of types " ++
      ", ".intercalate ((Kind.all.filter ks.contains).map fun k => "\"" ++ k.name ++ "\"")
  | options vs => s!"{subject.compact} is not one of " ++ (Json.arr vs).compact
  | constant v => s!"{v.compact} was expected"
  | bound b limit => s!"{subject.compact} is {b.breach} {limit.compact}"
  | multipleOf n => s!"{subject.compact} is not a multiple of " ++ divisorText n
  | tooFew .characters n => s!"{subject.compact} is shorter than " ++ Measure.characters.count n
  | tooMany .characters n => s!"{subject.compact} is longer than " ++ Measure.characters.count n
  | tooFew m n => s!"{subject.compact} has less than " ++ m.count n
  | tooMany m n => s!"{subject.compact} has more than " ++ m.count n
  | pattern source => s!"{subject.compact} does not match \"{source}\""
  | notUnique => s!"{subject.compact} has non-unique elements"
  | missing name => Json.quote name ++ " is a required property"
  | unexpected names => "Additional properties are not allowed" ++ unexpectedList names
  | unevaluatedProperties names =>
    "Unevaluated properties are not allowed" ++ unexpectedList names
  | unevaluatedItems items =>
    "Unevaluated items are not allowed" ++ unexpectedList (items.map Json.compact)
  | forbidden => s!"False schema does not allow {subject.compact}"
  | containsNone => s!"None of {subject.compact} are valid under the given schema"
  | noneOf keyword =>
    s!"{subject.compact} is not valid under any of the schemas listed in the '{keyword}' keyword"
  | severalOf =>
    s!"{subject.compact} is valid under more than one of the schemas listed in the 'oneOf' keyword"
  | negated source => s!"{source.compact} is not allowed for {subject.compact}"
  | notRegex => s!"{subject.compact} is not a \"regex\""

/-! ## 3. Violations -/

/-- Something wrong in a value. -/
structure Violation where
  place : Location
  subject : Json
  problem : Problem
deriving DecidableEq

namespace Violation

def message (v : Violation) : String := v.problem.message v.subject

/-- A violation as it is written: the pointer and the message. -/
def text (v : Violation) : String := pointer v.place ++ ": " ++ v.message

end Violation

end Reshape.JsonSchema
