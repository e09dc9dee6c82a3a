/-
# Conditions

A document defines conditions by name: a class, and a value that the class turns into a
predicate.  A schema node refers to them by specs, which may look at a field of a candidate
and may replace what matches by a fixed output.

`ConditionSet.apply` filters the candidates of a value through each spec.  A spec that matches
contributes its output, or the candidates it matched in the shape of the value; one
contribution is the result, several are an array, and none is no result.
-/
import Reshape.Error
import Reshape.Json.Shape
import Reshape.Text.Quoted

namespace Reshape

/-! ## 1. Definitions and references -/

/-- Does a value meet a condition? -/
abbrev Predicate := Json → Bool

/-- Makes a predicate from the value of a definition. -/
abbrev ConditionClass := Json → Except ConditionError Predicate

/-- A definition as a document gives it. -/
structure ConditionDef where
  className : String
  predicate : Json
deriving DecidableEq

/-- A reference to a condition. -/
structure ConditionSpec where
  name : String
  /-- What to look at in each candidate; the candidate itself if there is none. -/
  field : Option Path
  /-- What to contribute instead of the matches. -/
  output : Option Json
deriving DecidableEq

/-! ## 2. Classes -/

/-- The classes of conditions by name. -/
structure ConditionClasses where
  entries : Entries ConditionClass

namespace ConditionClasses

/-- Adds a class, or replaces the one of that name. -/
def register (name : String) (c : ConditionClass) (cs : ConditionClasses) : ConditionClasses :=
  ⟨Entries.insert name c cs.entries⟩

def contains (name : String) (cs : ConditionClasses) : Bool := Entries.contains name cs.entries

/-- The predicate of a definition. -/
def build (cs : ConditionClasses) (d : ConditionDef) : Except ConditionError Predicate :=
  match Entries.get? d.className cs.entries with
  | some c => c d.predicate
  | none => .error (.unknownClass d.className)

/-- The classes as they are displayed, by name. -/
def display (cs : ConditionClasses) : String :=
  Text.displayRecord "ConditionClasses"
    [("classes", Text.displayList (Entries.sortByKey cs.entries).keys)]

end ConditionClasses

/-! ## 3. Sets of conditions -/

/-- The conditions of a document by name. -/
structure ConditionSet where
  entries : Entries Predicate

namespace ConditionSet

variable (cs : ConditionSet)

/-- The predicates of definitions; the first definition without one is the error. -/
def build (classes : ConditionClasses) (defs : Entries ConditionDef) :
    Except ConditionError ConditionSet := do
  let built ← defs.mapM fun d => do
    let p ← classes.build d.2
    pure (d.1, p)
  pure ⟨Entries.ofList built⟩

def size : Nat := cs.entries.length

def isEmpty : Bool := cs.entries.isEmpty

/-- The set as it is displayed, by name. -/
def display : String :=
  Text.displayRecord "ConditionSet"
    [("names", Text.displayList (Entries.sortByKey cs.entries).keys)]

/-! ## 4. Filtering -/

/-- What a spec looks at in a candidate; null if the field is absent. -/
def subject (spec : ConditionSpec) (candidate : Json) : Reporting MappingError Json :=
  match spec.field with
  | none => pure candidate
  | some path => do
    let found ← (path.resolve candidate).mapError .notArray
    pure (found.getD .null)

/-- The candidates whose subject meets a predicate, in order. -/
def select (p : Predicate) (spec : ConditionSpec) (candidates : List Json) :
    Reporting MappingError (List Json) := do
  let kept ← candidates.mapM fun c => do
    let s ← subject spec c
    pure (if p s then some c else none)
  pure (kept.filterMap id)

/-- What a spec contributes for the candidates it matched. -/
def contribution (many : Bool) (spec : ConditionSpec) (matched : List Json) : Option Json :=
  if matched.isEmpty then none else some (spec.output.getD (Json.collapse many matched))

/-- Runs the candidates of a value through one spec. -/
def applySpec (value : Json) (spec : ConditionSpec) : Reporting MappingError (Option Json) :=
  match Entries.get? spec.name cs.entries with
  | none => throw (.condition (.unknown spec.name))
  | some p => do
    let matched ← select p spec value.candidates
    pure (contribution value.isMany spec matched)

/-- What the contributions of all specs come to. -/
def combine : List Json → Option Json
  | [] => none
  | [v] => some v
  | vs => some (.arr vs)

/-- Filters a value through specs, in order. -/
def apply (value : Json) (specs : List ConditionSpec) : Reporting MappingError (Option Json) := do
  let contributions ← specs.mapM (cs.applySpec value)
  pure (combine (contributions.filterMap id))

end ConditionSet

end Reshape
