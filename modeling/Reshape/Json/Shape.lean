/-
# One value or many

An array stands for its items and any other value for itself (`Json.candidates`).  What is
left of the candidates goes back into the shape it came from (`Json.collapse`): the only
survivor of a single value is bare again.
-/
import Reshape.Json.Basic
import Reshape.Unicode.Blank

namespace Reshape.Json

/-- Does a value stand for many? -/
def isMany : Json → Bool
  | arr _ => true
  | _ => false

/-- The values that a value stands for. -/
def candidates : Json → List Json
  | arr items => items
  | v => [v]

/-- Values in the shape they came from. -/
def collapse (many : Bool) (items : List Json) : Json :=
  match many, items with
  | false, [v] => v
  | _, items => arr items

/-- Null, false, blank texts and empty arrays and objects are blank. -/
def isBlank : Json → Bool
  | null => true
  | bool b => !b
  | str s => Text.isBlank s
  | arr items => items.isEmpty
  | obj entries => entries.isEmpty
  | _ => false

/-- A default as an array: absent and null become the empty one. -/
def asSequence : Option Json → Json
  | none => arr []
  | some null => arr []
  | some (arr items) => arr items
  | some v => arr [v]

/-- The values without the nulls. -/
def dropNulls (items : List Json) : List Json := items.filter fun v => !v.isNull

end Reshape.Json
