/-
# Limitations

A document may name lists of allowed values, its limitations.  A limit of a schema node ties
an attribute to one of them: a set of attributes is rejected if the attribute has a value that
is not in the list.  Null and false do not count as values, a name without a list never
rejects, and neither does a limitation that is not an array.
-/
import Reshape.Json.Equality

namespace Reshape

/-- The key of an attribute, and the name of the limitation its value must meet. -/
structure Limit where
  key : String
  limitation : String
deriving DecidableEq, Repr

/-- The limitations of a document, by name. -/
structure Limitations where
  table : Entries Json

namespace Limitations

def isEmpty (l : Limitations) : Bool := l.table.isEmpty

/-- Is there a limitation of this name? -/
def contains (name : String) (l : Limitations) : Bool := Entries.contains name l.table

/-- The allowed values of a limitation, if it is a list. -/
def allowed? (name : String) (l : Limitations) : Option (List Json) :=
  match Entries.get? name l.table with
  | some (.arr items) => some items
  | _ => none

/-- The value of an attribute, unless it is null or false. -/
def attribute? (name : String) (set : Entries Json) : Option Json :=
  (Entries.get? name set).filter fun v => !v.isOff

/-- Does a set of attributes break this limit? -/
def isBroken (l : Limitations) (set : Entries Json) (limit : Limit) : Bool :=
  match attribute? limit.key set, l.allowed? limit.limitation with
  | some v, some items => !v.memberOf items
  | _, _ => false

/-- Does a set of attributes break one of these limits? -/
def rejects (l : Limitations) (limits : List Limit) (set : Entries Json) : Bool :=
  limits.any (l.isBroken set)

end Limitations

end Reshape
