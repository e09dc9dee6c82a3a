/-
# Places in a document

A place is the keys and indexes that lead to it from the root.  It is written with a slash in
front of each; the root itself is written as nothing.
-/
import Reshape.Json.Basic

namespace Reshape

/-- A step into a value. -/
inductive Step where
  | key (k : String)
  | index (i : Nat)
deriving DecidableEq, Repr

/-- The steps from the root of a document. -/
abbrev Location := List Step

/-- A step as it is written. -/
def Step.text : Step → String
  | key k => "/" ++ k
  | index i => "/" ++ toString i

namespace Location

/-- A place as it is written. -/
def text (l : Location) : String := String.join (l.map Step.text)

/-- A place below another, under a key. -/
def key (l : Location) (k : String) : Location := l ++ [.key k]

/-- A place below another, at an index. -/
def index (l : Location) (i : Nat) : Location := l ++ [.index i]

/-- One step into a value. -/
def stepInto? : Step → Json → Option Json
  | .key k, v => v.get? k
  | .index i, .arr items => items[i]?
  | .index _, _ => none

/-- What stands at a place of a value. -/
def follow? (l : Location) (v : Json) : Option Json := l.foldlM (fun v s => stepInto? s v) v

end Location

end Reshape
