/-
# Findings

A finding is something wrong with a mapping document: an error, by which the document cannot
run or may fail, or a warning, by which a part of it has no effect or needs a caller's help.
Each kind of finding has a code; a finding about a part of a document names its place.
-/
import Reshape.Source
import Reshape.Error

namespace Reshape

/-- How bad a finding is. -/
inductive Severity where
  | error
  | warning
deriving DecidableEq, Repr

/-- The name of a severity. -/
def Severity.name : Severity → String
  | error => "error"
  | warning => "warning"

/-- What is wrong with a mapping document. -/
inductive Finding where
  /-- It cannot be loaded from its file. -/
  | unreadable (e : LoadError)
  /-- It does not have the shape of a mapping document. -/
  | malformed (e : MappingError)
  /-- A node refers to a condition that is not defined. -/
  | undefinedCondition (place : Location) (name : String)
  /-- A condition is defined for which no predicate can be built. -/
  | unusableCondition (name : String) (e : ConditionError)
  /-- A transform is not always there. -/
  | unknownTransform (place : Location) (name : String)
  /-- A node refers to a limitation that is not defined. -/
  | undefinedLimitation (place : Location) (name : String)
  /-- Conditions stand where they are never looked at. -/
  | ignoredConditions (place : Location)
deriving DecidableEq

namespace Finding

def severity : Finding → Severity
  | unreadable _ => .error
  | malformed _ => .error
  | undefinedCondition _ _ => .error
  | unusableCondition _ _ => .error
  | unknownTransform _ _ => .warning
  | undefinedLimitation _ _ => .warning
  | ignoredConditions _ => .warning

/-- The code of a kind of finding. -/
def code : Finding → String
  | unreadable _ => "E001"
  | malformed _ => "E002"
  | undefinedCondition _ _ => "E003"
  | unusableCondition _ _ => "E004"
  | unknownTransform _ _ => "W001"
  | undefinedLimitation _ _ => "W002"
  | ignoredConditions _ => "W003"

/-- The place of a finding; those about the whole document have none. -/
def place? : Finding → Option Location
  | unreadable _ => none
  | malformed _ => none
  | undefinedCondition place _ => some place
  | unusableCondition name _ => some [.key "conditions", .key name]
  | unknownTransform place _ => some place
  | undefinedLimitation place _ => some place
  | ignoredConditions place => some place

/-- The place of a finding as it is written. -/
def path (f : Finding) : String := (f.place?.map Location.text).getD "/"

def message : Finding → String
  | unreadable e => s!"syntax error: {e.message}"
  | malformed e => e.message
  | undefinedCondition _ name => s!"undefined condition \"{name}\""
  | unusableCondition _ e => e.message
  | unknownTransform _ name =>
    s!"transform \"{name}\" is not built in; it must be registered by the caller"
  | undefinedLimitation _ name => s!"undefined limitation \"{name}\""
  | ignoredConditions _ => "conditions are ignored on items_all nodes"

def isError (f : Finding) : Bool := f.severity == .error

def isWarning (f : Finding) : Bool := f.severity == .warning

end Finding

end Reshape
