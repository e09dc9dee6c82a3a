/-
# JSON Schemas

A JSON Schema allows every value, none, or those that meet all of a list of assertions, which
stand in the order of the keywords that make them.  References to other schemas are names;
what a name stands for is the business of whoever reads the schema.
-/
import Reshape.Json.Basic
import Reshape.Regex.Basic

namespace Reshape.JsonSchema

/-! ## 1. Kinds of values -/

/-- The kinds of values that a schema tells apart. -/
inductive Kind where
  | array
  | boolean
  | integer
  | null
  | number
  | object
  | string
deriving DecidableEq, Repr

namespace Kind

def name : Kind → String
  | array => "array"
  | boolean => "boolean"
  | integer => "integer"
  | null => "null"
  | number => "number"
  | object => "object"
  | string => "string"

/-- All kinds, by name. -/
def all : List Kind := [array, boolean, integer, null, number, object, string]

def ofName? (s : String) : Option Kind := all.find? fun k => k.name == s

/-- Is a value of a kind?  Whole numbers count as integers however they are written. -/
def holds : Kind → Json → Bool
  | array, .arr _ => true
  | boolean, .bool _ => true
  | integer, .int _ => true
  | integer, .float x => x.toInt?.isSome
  | null, .null => true
  | number, v => v.isNumber
  | object, .obj _ => true
  | string, .str _ => true
  | _, _ => false

end Kind

/-! ## 2. Assertions -/

/-- A bound of numbers. -/
inductive Bound where
  | minimum
  | maximum
  | exclusiveMinimum
  | exclusiveMaximum
deriving DecidableEq, Repr

/-- What can be counted of a value. -/
inductive Measure where
  | characters
  | items
  | properties
deriving DecidableEq, Repr

mutual

inductive Schema where
  | anything
  | nothing
  | all (assertions : List Assertion)

inductive Assertion where
  /-- The value is of one of some kinds. -/
  | kinds (ks : List Kind)
  /-- The value equals one of some values. -/
  | options (vs : List Json)
  | constant (v : Json)
  | bound (b : Bound) (limit : Json)
  | multipleOf (n : Json)
  | atLeast (m : Measure) (n : Nat)
  | atMost (m : Measure) (n : Nat)
  /-- A text matches a regular expression. -/
  | pattern (source : String) (r : Regex)
  /-- The items of an array differ. -/
  | unique
  | required (names : List String)
  /-- Where there is one name there are others. -/
  | dependentRequired (table : List (String × List String))
  | dependentSchemas (table : List (String × Schema))
  /-- The values under some names. -/
  | properties (table : List (String × Schema))
  /-- The values under the names that match regular expressions. -/
  | patternProperties (table : List (Regex × Schema))
  /-- The values under some names, and under the names that match, and under all others. -/
  | allProperties (table : List (String × Schema)) (patterns : List (Regex × Schema))
      (others : Schema)
  /-- An object has no entries. -/
  | noProperties
  /-- An object has any entries, which are all spoken for. -/
  | anyProperties
  | propertyNames (s : Schema)
  /-- The first items of an array. -/
  | prefixItems (ss : List Schema)
  /-- The items of an array, but for the first ones. -/
  | items (skipped : Nat) (s : Schema)
  | contains (s : Schema) (least most : Option Nat)
  | allOf (ss : List Schema)
  | anyOf (ss : List Schema)
  | oneOf (ss : List Schema)
  | conditional (condition : Schema) (met unmet : Option Schema)
  /-- Not valid under a schema, which is kept as it is written. -/
  | negation (source : Json) (s : Schema)
  | reference (target : String)
  /-- The entries of an object for which no assertion beside this one speaks. -/
  | unevaluatedProperties (beside : List Assertion) (s : Schema)
  /-- The items of an array for which no assertion beside this one speaks. -/
  | unevaluatedItems (beside : List Assertion) (s : Schema)

end

end Reshape.JsonSchema
