/-
# Transforms

A transform turns a value and some texts, its parameters, into another value.  A chain of
steps, each a name with parameters, runs from left to right, every step on the result of the
one before; the first step that fails ends the chain.

Main statement: `TransformRegistry.apply_append`, by which chains compose.
-/
import Reshape.Error
import Reshape.Text.Quoted

namespace Reshape

/-- Turns a value and parameters into a value. -/
abbrev Transform := Json → List String → Reporting TransformError Json

/-! ## 1. Steps -/

/-- A step of a chain. -/
structure TransformStep where
  name : String
  params : List String
deriving DecidableEq, Repr

/-- The step that a text writes: a name and parameters, with bars between them. -/
def TransformStep.ofString (s : String) : TransformStep :=
  match Text.split '|' s with
  | name :: params => ⟨name, params⟩
  | [] => ⟨"", []⟩

/-- The steps of a chain, in order. -/
abbrev TransformSpec := List TransformStep

/-- The chain that texts write. -/
def TransformSpec.ofStrings (steps : List String) : TransformSpec :=
  steps.map TransformStep.ofString

@[simp] theorem TransformSpec.ofStrings_append (s t : List String) :
    ofStrings (s ++ t) = ofStrings s ++ ofStrings t := List.map_append

/-! ## 2. Registries -/

/-- Transforms by name. -/
structure TransformRegistry where
  entries : Entries Transform

namespace TransformRegistry

variable (r : TransformRegistry)

/-- Adds a transform, or replaces the one of that name. -/
def register (name : String) (t : Transform) : TransformRegistry :=
  ⟨Entries.insert name t r.entries⟩

def contains (name : String) : Bool := Entries.contains name r.entries

/-- The registry as it is displayed, by name. -/
def display : String :=
  Text.displayRecord "TransformRegistry"
    [("transforms", Text.displayList (Entries.sortByKey r.entries).keys)]

/-- Runs one step. -/
def applyStep (value : Json) (step : TransformStep) : Reporting TransformError Json :=
  match Entries.get? step.name r.entries with
  | some t => t value step.params
  | none => throw (.unknown step.name)

/-- Runs a chain. -/
def apply (value : Json) : TransformSpec → Reporting TransformError Json
  | [] => pure value
  | step :: steps => do
    let value ← r.applyStep value step
    apply value steps

/-- Runs a chain if there is one. -/
def applyOptional (value : Json) : Option TransformSpec → Reporting TransformError Json
  | some spec => r.apply value spec
  | none => pure value

/-- A chain in two parts is the second part on the result of the first. -/
theorem apply_append (value : Json) (s t : TransformSpec) :
    r.apply value (s ++ t) = r.apply value s >>= fun v => r.apply v t := by
  induction s generalizing value with
  | nil => simp [apply]
  | cons step s ih => simp [apply, ih]

end TransformRegistry

end Reshape
