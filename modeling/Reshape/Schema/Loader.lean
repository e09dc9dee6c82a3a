/-
# Loading schemas

A document arrives as a value.  Loading decides the kind of every node once, from the one key
that marks it, and checks the shape of every field, so that a run never meets a malformed
node.  Keys that mean nothing to a node are passed over.

The first fault met is the error.  Within a node the order is: kind of value, name, marks,
path, body with everything below, transform, conditions, limits.
-/
import Reshape.Schema
import Reshape.Unicode.Case

namespace Reshape

namespace Node

/-! ## 1. Fields of a node -/

/-- A malformed document. -/
def malformed {α : Type} (fault : SchemaFault) : Except MappingError α :=
  .error (.malformed fault)

/-- The path that a value writes; only texts write one. -/
def expectPath : Json → Except MappingError Path
  | .str s => .ok (Path.ofString s)
  | v => .error (.argument (.kind v.typeName))

/-- A path that may be missing or null. -/
def optionalPath : Option Json → Except MappingError (Option Path)
  | none => .ok none
  | some .null => .ok none
  | some v => (expectPath v).map some

/-- The name of a node; unnamed nodes are allowed as elements of an array. -/
def loadName (place : Location) (unnamed : Bool) (es : Entries Json) :
    Except MappingError String :=
  match Entries.get? "name" es with
  | some (.str s) => .ok s
  | some v => malformed (.nameKind place v.typeName)
  | none => if unnamed then .ok "" else malformed (.nameMissing place)

/-- The path of a node that needs one. -/
def requirePath (place : Location) (kind : NodeKind) (name : String) :
    Option Path → Except MappingError Path
  | some p => .ok p
  | none => .error (.argument (.missing place kind.key name))

/-- The paths of a node that merges several. -/
def loadPaths (place : Location) : Json → Except MappingError (List Path)
  | .arr vs => vs.mapM expectPath
  | v => malformed (.pathsKind place v.typeName)

/-- The keys to pass over, in lower case. -/
def loadExclude (place : Location) : Option Json → Except MappingError (List String)
  | none => .ok []
  | some .null => .ok []
  | some (.arr vs) =>
    vs.mapM fun
      | .str s => .ok (Text.lowercase s)
      | v => malformed (.excludedKind place v.typeName)
  | some v => malformed (.excludeKind place v.typeName)

/-- A step or a list of steps. -/
def loadTransform (place : Location) : Option Json → Except MappingError (Option TransformSpec)
  | none => .ok none
  | some .null => .ok none
  | some (.str s) => .ok (some [TransformStep.ofString s])
  | some (.arr vs) => do
    let steps ← vs.mapM fun
      | .str s => .ok (TransformStep.ofString s)
      | v => malformed (.stepKind place v.typeName)
    pure (some steps)
  | some v => malformed (.transformKind place v.typeName)

/-- One reference to a condition; an output that is null or false is none. -/
def loadSpec (place : Location) : Json → Except MappingError ConditionSpec
  | .obj es =>
    match Entries.get? "name" es with
    | some (.str name) => do
      let field ← optionalPath (Entries.get? "field" es)
      pure ⟨name, field, (Entries.get? "output" es).filter fun v => !v.isOff⟩
    | _ => malformed (.specNameMissing place (.obj es))
  | v => malformed (.specKind place v)

/-- The references to conditions. -/
def loadConditions (place : Location) :
    Option Json → Except MappingError (Option (List ConditionSpec))
  | none => .ok none
  | some .null => .ok none
  | some (.arr vs) => (vs.mapM (loadSpec place)).map some
  | some v => malformed (.specsKind place v.typeName)

/-- One limit; null is passed over. -/
def loadLimit (place : Location) : Json → Except MappingError (Option Limit)
  | .null => .ok none
  | .obj [(key, .str limitation)] => .ok (some ⟨key, limitation⟩)
  | .obj [(key, _)] => malformed (.limitNameKind place key)
  | .obj es => malformed (.limitNotSingle place (.obj es))
  | v => malformed (.limitKind place v.typeName)

/-- The limits. -/
def loadLimits (place : Location) : Option Json → Except MappingError (List Limit)
  | none => .ok []
  | some .null => .ok []
  | some (.arr vs) => do
    let limits ← vs.mapM (loadLimit place)
    pure (limits.filterMap id)
  | some v => malformed (.limitsKind place v.typeName)

/-- What nodes of every kind may say. -/
def loadInfo (place : Location) (name : String) (es : Entries Json) :
    Except MappingError NodeInfo := do
  let transform ← loadTransform place (Entries.get? "transform" es)
  let conditions ← loadConditions place (Entries.get? "conditions" es)
  let limits ← loadLimits place (Entries.get? "limits" es)
  pure
    { name, transform, conditions, limits
      default := (Entries.get? "default" es).filter fun v => !v.isNull
      require := (Entries.get? "require" es).any fun v => !v.isOff }

/-- The kinds whose marks are among the keys. -/
def marks (es : Entries Json) : List NodeKind :=
  NodeKind.all.filter fun k => Entries.contains k.key es

/-! ## 2. Nodes

`nodesUnder` and `groupsUnder` look up a key among entries and load what stands under it. -/

mutual

/-- Loads a node at a place. -/
def load (place : Location) (unnamed : Bool) : Json → Except MappingError Node
  | .obj es => do
    let name ← loadName place unnamed es
    let kind? ← match marks es with
      | [] => pure none
      | [k] => pure (some k)
      | ks => malformed (.mixedKinds place name (ks.map NodeKind.key))
    let path ← optionalPath (Entries.get? "path" es)
    match kind? with
    | none => do
      let info ← loadInfo place name es
      pure (.value info path)
    | some .attributes => do
      let p ← requirePath place .attributes name path
      let fields ← nodesUnder (place.key "attributes") false "attributes" es
      let info ← loadInfo place name es
      pure (.attributes info p fields)
    | some .nested => do
      let fields ← nodesUnder (place.key "nested") false "nested" es
      let info ← loadInfo place name es
      pure (.nested info fields)
    | some .items => do
      let p ← requirePath place .items name path
      let groups ← groupsUnder (place.key "items") "items" es
      let info ← loadInfo place name es
      pure (.items info p groups)
    | some .itemsAll => do
      let p ← requirePath place .itemsAll name path
      let groups ← groupsUnder (place.key "items_all") "items_all" es
      let exclude ← loadExclude place (Entries.get? "exclude" es)
      let info ← loadInfo place name es
      pure (.itemsAll info p groups exclude)
    | some .hash => do
      let p ← requirePath place .hash name path
      let fields ← nodesUnder (place.key "hash") false "hash" es
      let info ← loadInfo place name es
      pure (.hash info p fields)
    | some .array => do
      let elements ← nodesUnder (place.key "array") true "array" es
      let info ← loadInfo place name es
      pure (.array info elements)
    | some .hashArray => do
      let p ← requirePath place .hashArray name path
      let fields ← nodesUnder (place.key "hash_array") false "hash_array" es
      let info ← loadInfo place name es
      pure (.hashArray info p fields)
    | some .mergeArrays => do
      let paths ← loadPaths (place.key "merge_arrays") ((Entries.get? "merge_arrays" es).getD .null)
      let info ← loadInfo place name es
      pure (.mergeArrays info paths)
  | v => malformed (.nodeKind place v.typeName)

/-- Loads the list of nodes under a key. -/
def nodesUnder (place : Location) (unnamed : Bool) (key : String) :
    List (String × Json) → Except MappingError (List Node)
  | [] => .ok []
  | (k, v) :: es =>
    if k = key then loadNodes place unnamed v else nodesUnder place unnamed key es

/-- Loads the list of groups under a key. -/
def groupsUnder (place : Location) (key : String) :
    List (String × Json) → Except MappingError (List (List Node))
  | [] => .ok []
  | (k, v) :: es => if k = key then loadGroups place v else groupsUnder place key es

/-- Loads a list of nodes. -/
def loadNodes (place : Location) (unnamed : Bool) : Json → Except MappingError (List Node)
  | .arr vs => nodesFrom place unnamed 0 vs
  | v => malformed (.nodesKind place v.typeName)

/-- Loads nodes, the first of which has a given index. -/
def nodesFrom (place : Location) (unnamed : Bool) (i : Nat) :
    List Json → Except MappingError (List Node)
  | [] => .ok []
  | v :: vs => do
    let n ← load (place.index i) unnamed v
    let ns ← nodesFrom place unnamed (i + 1) vs
    pure (n :: ns)

/-- Loads a list of groups. -/
def loadGroups (place : Location) : Json → Except MappingError (List (List Node))
  | .arr vs => groupsFrom place 0 vs
  | v => malformed (.groupsKind place v.typeName)

/-- Loads groups, the first of which has a given index. -/
def groupsFrom (place : Location) (i : Nat) :
    List Json → Except MappingError (List (List Node))
  | [] => .ok []
  | v :: vs => do
    let g ← loadNodes (place.index i) false v
    let gs ← groupsFrom place (i + 1) vs
    pure (g :: gs)

end

/-- Loads a single node, which must have a name. -/
def ofJson (v : Json) : Except MappingError Node := load [] false v

end Node

/-! ## 3. Documents -/

namespace Document

open Node (malformed)

/-- A definition of a condition; a predicate that is missing is null. -/
def loadDef (name : String) (v : Json) : Except MappingError ConditionDef :=
  match v.get? "class" with
  | some (.str className) => .ok ⟨className, (v.get? "predicate").getD .null⟩
  | _ => malformed (.conditionClassMissing name)

/-- The definitions of conditions, sorted by name. -/
def loadDefs : Option Json → Except MappingError (Entries ConditionDef)
  | none => .ok []
  | some .null => .ok []
  | some (.obj es) => do
    let defs ← es.mapM fun e => do
      let d ← loadDef e.1 e.2
      pure (e.1, d)
    pure (Entries.sortByKey defs)
  | some v => malformed (.conditionsKind v.typeName)

/-- The limitations. -/
def loadLimitations : Option Json → Except MappingError Limitations
  | none => .ok ⟨[]⟩
  | some .null => .ok ⟨[]⟩
  | some (.obj es) => .ok ⟨es⟩
  | some v => malformed (.limitationsKind v.typeName)

/-- The place of the objects of a document. -/
def objectsPlace : Location := [.key "objects"]

/-- Loads a document. -/
def ofJson : Json → Except MappingError Document
  | .obj es => do
    let conditions ← loadDefs (Entries.get? "conditions" es)
    let limitations ← loadLimitations (Entries.get? "limitations" es)
    let objects ← match Entries.get? "objects" es with
      | none => malformed .objectsMissing
      | some .null => malformed .objectsMissing
      | some v => Node.loadNodes objectsPlace false v
    pure ⟨conditions, limitations, objects⟩
  | v => malformed (.documentKind v.typeName)

end Document

end Reshape
