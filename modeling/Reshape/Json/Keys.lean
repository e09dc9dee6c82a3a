/-
# Keys in lower case

`Json.normalizeKeys` writes every key of a value in lower case, at every depth.  Keys that
become the same key keep the place of the first and the value of the last.
-/
import Reshape.Json.Basic
import Reshape.Unicode.Case

namespace Reshape.Json

mutual

/-- The value with every key in lower case. -/
def normalizeKeys : Json → Json
  | null => null
  | bool b => bool b
  | int n => int n
  | float x => float x
  | str s => str s
  | arr items => arr (normalizeItems items)
  | obj es => obj (Entries.ofList (normalizeEntries es))

def normalizeItems : List Json → List Json
  | [] => []
  | v :: vs => normalizeKeys v :: normalizeItems vs

def normalizeEntries : List (String × Json) → List (String × Json)
  | [] => []
  | (k, v) :: es => (Text.lowercase k, normalizeKeys v) :: normalizeEntries es

end

@[simp] theorem normalizeItems_eq_map (items : List Json) :
    normalizeItems items = items.map normalizeKeys := by
  induction items with
  | nil => rfl
  | cons v vs ih => simp [normalizeItems, ih]

@[simp] theorem normalizeEntries_eq_map (es : List (String × Json)) :
    normalizeEntries es = es.map fun e => (Text.lowercase e.1, normalizeKeys e.2) := by
  induction es with
  | nil => rfl
  | cons e es ih => simp [normalizeEntries, ih]

end Reshape.Json
