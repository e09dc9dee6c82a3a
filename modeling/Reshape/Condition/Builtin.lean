/-
# The classes of conditions that are always there

`Equals` and `NotEquals` compare with a value, `OneOf` and `NoneOf` with the items of an
array, `Matches` searches the text of a value for a regular expression, and `Present` and
`Blank` tell blank values from others.
-/
import Reshape.Condition
import Reshape.Json.Equality
import Reshape.Json.Printer
import Reshape.Regex.Compile

namespace Reshape.ConditionClasses

/-- The values to compare with, which a class needs as an array. -/
def expectArray (className : String) : Json → Except ConditionError (List Json)
  | .arr items => .ok items
  | v => .error (.invalidPredicate className s!"expected array, got {v.typeName}")

def equals : ConditionClass := fun p => .ok fun v => v.equal p

def notEquals : ConditionClass := fun p => .ok fun v => !v.equal p

def oneOf : ConditionClass := fun p => do
  let items ← expectArray "OneOf" p
  pure fun v => v.memberOf items

def noneOf : ConditionClass := fun p => do
  let items ← expectArray "NoneOf" p
  pure fun v => !v.memberOf items

def matching : ConditionClass
  | .str pattern =>
    match Regex.compile pattern with
    | .ok r => .ok fun v => r.isMatch v.toText
    | .error e => .error (.invalidPredicate "Matches" e.message)
  | v => .error (.invalidPredicate "Matches" s!"expected regex string, got {v.typeName}")

def present : ConditionClass := fun _ => .ok fun v => !v.isBlank

def blank : ConditionClass := fun _ => .ok Json.isBlank

/-- The classes that are always there. -/
def builtin : ConditionClasses :=
  ⟨[("Equals", equals), ("NotEquals", notEquals), ("OneOf", oneOf), ("NoneOf", noneOf),
    ("Matches", matching), ("Present", present), ("Blank", blank)]⟩

end Reshape.ConditionClasses
