/-
# Schemas

A schema node describes one value of the output: its name, how to come by the value, and what
to do with it.  There are nine kinds of nodes.  A document is a list of nodes with the
conditions and limitations that they refer to by name.

Recursion over nodes goes in three parts: over a node, over a list of nodes and over a list of
groups of nodes.  `Node.induct` is the matching induction principle.
-/
import Reshape.Condition
import Reshape.Limit
import Reshape.Transform

namespace Reshape

/-! ## 1. Kinds -/

/-- The kinds of nodes that are marked by a key of their own; a node with none of these keys
is a plain value. -/
inductive NodeKind where
  | attributes
  | nested
  | items
  | itemsAll
  | hash
  | array
  | hashArray
  | mergeArrays
deriving DecidableEq, Repr

namespace NodeKind

/-- The key that marks a kind. -/
def key : NodeKind → String
  | attributes => "attributes"
  | nested => "nested"
  | items => "items"
  | itemsAll => "items_all"
  | hash => "hash"
  | array => "array"
  | hashArray => "hash_array"
  | mergeArrays => "merge_arrays"

/-- All marked kinds. -/
def all : List NodeKind :=
  [attributes, nested, items, itemsAll, hash, array, hashArray, mergeArrays]

theorem mem_all (k : NodeKind) : k ∈ all := by cases k <;> decide

end NodeKind

/-! ## 2. Nodes -/

/-- What nodes of every kind may say. -/
structure NodeInfo where
  /-- The key of the value in the output; empty for elements of an array. -/
  name : String
  transform : Option TransformSpec
  /-- An empty list of conditions never matches; it is not the same as none. -/
  conditions : Option (List ConditionSpec)
  limits : List Limit
  default : Option Json
  /-- Is a set of attributes rejected in which this value is blank? -/
  require : Bool
deriving DecidableEq

inductive Node where
  /-- The value at a path. -/
  | value (info : NodeInfo) (path : Option Path)
  /-- Sets of attributes, one for each candidate at a path. -/
  | attributes (info : NodeInfo) (path : Path) (fields : List Node)
  /-- One set of attributes of the input itself. -/
  | nested (info : NodeInfo) (fields : List Node)
  /-- An array of sets, one for each candidate at a path and each group. -/
  | items (info : NodeInfo) (path : Path) (groups : List (List Node))
  /-- An array of sets, one for each key of the objects at a path and each group; `exclude`
  are the keys passed over, in lower case. -/
  | itemsAll (info : NodeInfo) (path : Path) (groups : List (List Node)) (exclude : List String)
  /-- One set of attributes, written by every candidate at a path. -/
  | hash (info : NodeInfo) (path : Path) (fields : List Node)
  /-- The different values of several nodes. -/
  | array (info : NodeInfo) (elements : List Node)
  /-- The values of each field over all candidates at a path. -/
  | hashArray (info : NodeInfo) (path : Path) (fields : List Node)
  /-- The different values at several paths. -/
  | mergeArrays (info : NodeInfo) (paths : List Path)

namespace Node

/-- Induction over nodes: the hypothesis holds of every child. -/
@[induction_eliminator]
theorem induct {motive : Node → Prop}
    (value : ∀ info path, motive (.value info path))
    (attributes : ∀ info path fields, (∀ n ∈ fields, motive n) →
      motive (.attributes info path fields))
    (nested : ∀ info fields, (∀ n ∈ fields, motive n) → motive (.nested info fields))
    (items : ∀ info path groups, (∀ g ∈ groups, ∀ n ∈ g, motive n) →
      motive (.items info path groups))
    (itemsAll : ∀ info path groups exclude, (∀ g ∈ groups, ∀ n ∈ g, motive n) →
      motive (.itemsAll info path groups exclude))
    (hash : ∀ info path fields, (∀ n ∈ fields, motive n) → motive (.hash info path fields))
    (array : ∀ info elements, (∀ n ∈ elements, motive n) → motive (.array info elements))
    (hashArray : ∀ info path fields, (∀ n ∈ fields, motive n) →
      motive (.hashArray info path fields))
    (mergeArrays : ∀ info paths, motive (.mergeArrays info paths)) (n : Node) : motive n :=
  @Node.rec motive (fun ns => ∀ n ∈ ns, motive n) (fun gs => ∀ g ∈ gs, ∀ n ∈ g, motive n)
    value attributes nested items itemsAll hash array hashArray mergeArrays
    (by simp) (fun _ _ hn hns => by simpa using ⟨hn, hns⟩)
    (by simp) (fun _ _ hg hgs => by simpa using ⟨hg, hgs⟩) n

/-- What the node says beside its kind. -/
def info : Node → NodeInfo
  | value i _ => i
  | attributes i _ _ => i
  | nested i _ => i
  | items i _ _ => i
  | itemsAll i _ _ _ => i
  | hash i _ _ => i
  | array i _ => i
  | hashArray i _ _ => i
  | mergeArrays i _ => i

def name (n : Node) : String := n.info.name

/-- The kind of a node; plain values have none. -/
def kind? : Node → Option NodeKind
  | value _ _ => none
  | attributes _ _ _ => some .attributes
  | nested _ _ => some .nested
  | items _ _ _ => some .items
  | itemsAll _ _ _ _ => some .itemsAll
  | hash _ _ _ => some .hash
  | array _ _ => some .array
  | hashArray _ _ _ => some .hashArray
  | mergeArrays _ _ => some .mergeArrays

/-- The path of a node that has one. -/
def path? : Node → Option Path
  | value _ p => p
  | attributes _ p _ => some p
  | nested _ _ => none
  | items _ p _ => some p
  | itemsAll _ p _ _ => some p
  | hash _ p _ => some p
  | array _ _ => none
  | hashArray _ p _ => some p
  | mergeArrays _ _ => none

/-- The groups of a node that has groups. -/
def groups : Node → List (List Node)
  | items _ _ gs => gs
  | itemsAll _ _ gs _ => gs
  | _ => []

/-- The nodes right below a node, in order; groups one after the other. -/
def children : Node → List Node
  | value _ _ => []
  | attributes _ _ ns => ns
  | nested _ ns => ns
  | items _ _ gs => gs.flatten
  | itemsAll _ _ gs _ => gs.flatten
  | hash _ _ ns => ns
  | array _ ns => ns
  | hashArray _ _ ns => ns
  | mergeArrays _ _ => []

end Node

/-! ## 3. Documents -/

/-- A mapping document. -/
structure Document where
  /-- Sorted by name. -/
  conditions : Entries ConditionDef
  limitations : Limitations
  objects : List Node

end Reshape
