/-
# What can go wrong in a mapping

Errors are causes.  Each has one wording, given by its `message`; `MappingError` gathers all
that can end the loading of a mapping or a run of it.
-/
import Reshape.Json.Printer
import Reshape.Location
import Reshape.Path

namespace Reshape

/-! ## 1. Transforms and conditions -/

inductive TransformError where
  | unknown (name : String)
  | invalidArguments (name message : String)
  | failed (name message : String)
deriving DecidableEq, Repr

def TransformError.message : TransformError → String
  | unknown name => s!"unknown transform \"{name}\""
  | invalidArguments name message => s!"transform \"{name}\": {message}"
  | failed name message => s!"transform \"{name}\" failed: {message}"

inductive ConditionError where
  | unknown (name : String)
  | unknownClass (className : String)
  | invalidPredicate (className message : String)
deriving DecidableEq, Repr

def ConditionError.message : ConditionError → String
  | unknown name => s!"unknown condition named \"{name}\""
  | unknownClass className => s!"unknown condition class \"{className}\""
  | invalidPredicate className message =>
    s!"invalid predicate for condition class \"{className}\": {message}"

/-! ## 2. Schemas -/

/-- What can be wrong with the shape of a mapping document.  A place is that of the node or
of the list at fault; `got` is the kind of value found instead. -/
inductive SchemaFault where
  | documentKind (got : String)
  | conditionsKind (got : String)
  | limitationsKind (got : String)
  | objectsMissing
  | conditionClassMissing (name : String)
  | nodesKind (place : Location) (got : String)
  | groupsKind (place : Location) (got : String)
  | nodeKind (place : Location) (got : String)
  | nameMissing (place : Location)
  | nameKind (place : Location) (got : String)
  | mixedKinds (place : Location) (name : String) (keys : List String)
  | pathsKind (place : Location) (got : String)
  | excludedKind (place : Location) (got : String)
  | excludeKind (place : Location) (got : String)
  | stepKind (place : Location) (got : String)
  | transformKind (place : Location) (got : String)
  | specsKind (place : Location) (got : String)
  | specKind (place : Location) (spec : Json)
  | specNameMissing (place : Location) (spec : Json)
  | limitsKind (place : Location) (got : String)
  | limitNotSingle (place : Location) (entry : Json)
  | limitNameKind (place : Location) (key : String)
  | limitKind (place : Location) (got : String)
deriving DecidableEq

def SchemaFault.message : SchemaFault → String
  | documentKind got => s!"document should be a mapping, got {got}"
  | conditionsKind got => s!"conditions should be a mapping, got {got}"
  | limitationsKind got => s!"limitations should be a mapping, got {got}"
  | objectsMissing => "must define objects under the 'objects' name"
  | conditionClassMissing name => s!"/conditions/{name}: condition needs a string class"
  | nodesKind place got => s!"{place.text}: expected a sequence of schema nodes, got {got}"
  | groupsKind place got => s!"{place.text}: expected a sequence of groups, got {got}"
  | nodeKind place got => s!"{place.text}: object should be a mapping, got {got}"
  | nameMissing place => s!"{place.text}: object needs a name"
  | nameKind place got => s!"{place.text}: name should be a string, got {got}"
  | mixedKinds place name keys =>
    s!"{place.text}: object '{name}' mixes node kinds: " ++ ", ".intercalate keys
  | pathsKind place got => s!"{place.text}: expected a sequence of paths, got {got}"
  | excludedKind place got => s!"{place.text}/exclude: expected strings, got {got}"
  | excludeKind place got => s!"{place.text}/exclude: expected a sequence, got {got}"
  | stepKind place got => s!"{place.text}/transform: steps should be strings, got {got}"
  | transformKind place got => s!"{place.text}/transform: expected string or sequence, got {got}"
  | specsKind place got => s!"{place.text}/conditions: expected a sequence, got {got}"
  | specKind place spec => s!"{place.text}/conditions: conditions are a hash: {spec.compact}"
  | specNameMissing place spec =>
    s!"{place.text}/conditions: condition needs a string name: {spec.compact}"
  | limitsKind place got => s!"{place.text}/limits: expected a sequence, got {got}"
  | limitNotSingle place entry =>
    s!"{place.text}/limits: each entry should be a single attribute: limitation pair, got " ++
      entry.compact
  | limitNameKind place key => s!"{place.text}/limits: limitation name for '{key}' should be a string"
  | limitKind place got => s!"{place.text}/limits: entries should be mappings, got {got}"

/-- A path that is none. -/
inductive PathFault where
  /-- Something else stands where a path should. -/
  | kind (got : String)
  /-- A node of this kind needs a path. -/
  | missing (place : Location) (nodeKind name : String)
deriving DecidableEq, Repr

def PathFault.message : PathFault → String
  | kind got => s!"path must be string, not {got}"
  | missing place nodeKind name =>
    s!"{place.text}: {nodeKind} object '{name}' needs a path: path must be string, not null"

/-! ## 3. Mappings -/

inductive MappingError where
  | malformed (fault : SchemaFault)
  | argument (fault : PathFault)
  | notArray (failure : Path.Failure)
  | transform (e : TransformError)
  | condition (e : ConditionError)
deriving DecidableEq

/-- The wording of a `*` that meets no array. -/
def Path.Failure.message (f : Path.Failure) : String :=
  let front := Text.join '/' f.before
  s!"{front} is not an array (while resolving \"{f.path.text}\")"

def MappingError.message : MappingError → String
  | malformed fault => s!"invalid mapping schema: {fault.message}"
  | argument fault => s!"invalid argument: {fault.message}"
  | notArray failure => failure.message
  | transform e => e.message
  | condition e => e.message

/-- The exit code of every mapping error. -/
def MappingError.exitCode : MappingError → Nat := fun _ => 2

end Reshape
