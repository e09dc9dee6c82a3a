/-
# Running a mapping

An engine is a document with its conditions built and the transforms it may name.  Running it
takes every node of the document to a value and merges the values under the names of the
nodes.

`Engine.mapNode` goes by recursion on the node.  Each kind of node resolves its path, takes
what it finds as candidates, and maps its child nodes against each; the loops are `mapM` over
candidates, entries and groups, so their order is the order of warnings and of failures.
-/
import Reshape.Condition.Builtin
import Reshape.Json.Keys
import Reshape.Schema.Loader
import Reshape.Template
import Reshape.Transform.Builtin

namespace Reshape

/-! ## 1. Engines -/

/-- What a caller adds to an engine: transforms and classes of conditions, which replace
those of the same name. -/
structure Options where
  transforms : List (String × Transform) := []
  conditionClasses : List (String × ConditionClass) := []

/-- Options as they are displayed, in the order in which they were added.  Notices are part
of the result of a run, so no receiver for them is ever set. -/
def Options.display (o : Options) : String :=
  Text.displayRecord "MappingOptions"
    [("transforms", Text.displayList (o.transforms.map Prod.fst)),
      ("condition_classes", Text.displayList (o.conditionClasses.map Prod.fst)),
      ("diagnostics", "false")]

/-- A document that is ready to run. -/
structure Engine where
  document : Document
  conditions : ConditionSet
  transforms : TransformRegistry

namespace Engine

/-- The classes of conditions that options leave. -/
def classes (o : Options) : ConditionClasses :=
  o.conditionClasses.foldl (fun cs c => cs.register c.1 c.2) .builtin

/-- The transforms that options leave. -/
def registry (o : Options) : TransformRegistry :=
  o.transforms.foldl (fun r t => r.register t.1 t.2) .builtin

/-- The engine of a document; a condition that cannot be built is the error. -/
def ofDocument (document : Document) (o : Options) : Except MappingError Engine :=
  match ConditionSet.build (classes o) document.conditions with
  | .ok conditions => .ok ⟨document, conditions, registry o⟩
  | .error e => .error (.condition e)

/-- The engine of a document that is still to be loaded. -/
def ofJson (document : Json) (o : Options) : Except MappingError Engine := do
  ofDocument (← Document.ofJson document) o

/-- An engine as it is displayed. -/
def display (e : Engine) : String :=
  Text.displayRecord "JsonMapping"
    [("objects", toString e.document.objects.length), ("conditions", e.conditions.display),
      ("transforms", e.transforms.display)]

/-! ## 2. Shared steps -/

variable (e : Engine)

/-- What a path leads to. -/
def resolve (path : Path) (input : Json) : Reporting MappingError (Option Json) :=
  (path.resolve input).mapError .notArray

/-- Runs the transform of a node. -/
def transform (info : NodeInfo) (v : Json) : Reporting MappingError Json :=
  (e.transforms.applyOptional v info.transform).mapError .transform

/-- What a node maps instead of a candidate: what its conditions leave of it, or the
candidate itself if it has none. -/
def filterCandidate (info : NodeInfo) (candidate : Json) :
    Reporting MappingError (Option Json) :=
  match info.conditions with
  | some specs => e.conditions.apply candidate specs
  | none => pure (some candidate)

/-- The values of child nodes, with what the nodes say. -/
abbrev Fields := List (NodeInfo × Json)

/-- The entries that the values of child nodes write. -/
def entriesOf (fs : Fields) : List (String × Json) := fs.map fun f => (f.1.name, f.2)

/-- Is a required value blank? -/
def lacksRequired (fs : Fields) : Bool := fs.any fun f => f.1.require && f.2.isBlank

/-- The set of attributes that the values of child nodes make up, unless a required one is
blank or the set breaks a limit. -/
def attributeSet (limits : List Limit) (fs : Fields) : Option Json :=
  let set := Entries.ofList (entriesOf fs)
  if lacksRequired fs || e.document.limitations.rejects limits set then none
  else some (.obj set)

/-- The value of sets of attributes: the only set stands bare, unless the path ends in a
`*`. -/
def collapseSets (path : Path) (sets : List Json) : Json :=
  match sets with
  | [set] => if path.endsWithWildcard then .arr [set] else set
  | sets => .arr sets

/-! ## 3. Plain values -/

/-- A plain value: what is at the path, what the conditions leave of it, transformed.  The
default stands in for what is absent, untransformed.  Placeholders are replaced in the
default, and then in what was found. -/
def mapValue (info : NodeInfo) (path : Option Path) (input : Json) (params : Parameters) :
    Reporting MappingError Json :=
  let default := (info.default.map (Template.fill params)).getD .null
  match path with
  | none => pure default
  | some p => do
    match ← resolve p input with
    | none => pure default
    | some found =>
      let v ← match info.conditions with
        | none => e.transform info found
        | some specs =>
          match ← e.conditions.apply found specs with
          | some matched => e.transform info matched
          | none => pure default
      pure (Template.fill params v)

/-! ## 4. Parameters of keys -/

/-- The name under which the key of an entry is known to templates. -/
def keyParameter : String := "key_name"

/-- The number of characters of a key that templates see. -/
def keyLength : Nat := 50

/-- Parameters with the key of an entry. -/
def withKey (key : String) (params : Parameters) : Parameters :=
  Entries.insert keyParameter (String.ofList (key.toList.take keyLength)) params

/-- The entries of a candidate that are not excluded, after a warning if it is no object. -/
def openCandidate (info : NodeInfo) (path : Path) (exclude : List String) (candidate : Json) :
    Reporting MappingError (Entries Json) :=
  match candidate with
  | .obj entries =>
    pure (entries.filter fun entry => !exclude.contains (Text.lowercase entry.1))
  | v => do
    Reporting.warn
      s!"items_all '{info.name}' expected objects at {path.text}, got {v.typeName}"
    pure []

/-! ## 5. Nodes -/

/-- What several paths lead to, one after the other; arrays give their items. -/
def mergePaths (paths : List Path) (input : Json) : Reporting MappingError (List Json) := do
  let found ← paths.mapM fun p => resolve p input
  pure (found.flatMap fun v => (v.map Json.candidates).getD [])

/-- Transforms the different values of each group. -/
def transformGroups (info : NodeInfo) (groups : Entries (List Json)) :
    Reporting MappingError (List (String × Json)) :=
  groups.mapM fun g => do
    let v ← e.transform info (.arr (Json.dedup g.2))
    pure (g.1, v)

mutual

/-- The value of a node against an input. -/
def mapNode : Node → Json → Parameters → Reporting MappingError Json
  | .value info path, input, params => e.mapValue info path input params
  | .attributes info path fields, input, params => do
    match ← resolve path input with
    | none => pure (info.default.getD .null)
    | some found =>
      let sets ← found.candidates.mapM fun candidate => do
        match ← e.filterCandidate info candidate with
        | none => pure none
        | some item =>
          let fs ← mapFields fields item params
          pure (e.attributeSet info.limits fs)
      e.transform info (collapseSets path (sets.filterMap id))
  | .nested _ fields, input, params => do
    let fs ← mapFields fields input params
    pure (.obj (Entries.ofList (entriesOf fs)))
  | .items info path groups, input, params => do
    match ← resolve path input with
    | none => pure (Json.asSequence info.default)
    | some found =>
      let sets ← found.candidates.mapM fun candidate => do
        match ← e.filterCandidate info candidate with
        | none => pure []
        | some item => mapGroups groups info.limits item params
      e.transform info (.arr sets.flatten)
  | .itemsAll info path groups exclude, input, params => do
    match ← resolve path input with
    | none => pure (Json.asSequence info.default)
    | some found =>
      let sets ← found.candidates.mapM fun candidate => do
        let entries ← openCandidate info path exclude candidate
        let sets ← entries.mapM fun entry =>
          mapGroups groups info.limits entry.2 (withKey entry.1 params)
        pure sets.flatten
      e.transform info (.arr sets.flatten)
  | .hash info path fields, input, params => do
    match ← resolve path input with
    | none => pure (Json.asSequence info.default)
    | some found =>
      let written ← found.candidates.mapM fun candidate => do
        match ← e.filterCandidate info candidate with
        | none => pure []
        | some item =>
          let fs ← mapFields fields item params
          pure (entriesOf fs)
      pure (.obj (Entries.ofList written.flatten))
  | .array info elements, input, params => do
    let fs ← mapFields elements input params
    let flat := fs.flatMap fun f => f.2.candidates
    e.transform info (.arr (Json.dropNulls (Json.dedup flat)))
  | .hashArray info path fields, input, params => do
    match ← resolve path input with
    | none => pure (Json.asSequence info.default)
    | some found =>
      let written ← found.candidates.mapM fun candidate => do
        let fs ← mapFields fields candidate params
        pure (entriesOf fs)
      let entries ← e.transformGroups info (Entries.group written.flatten)
      pure (.obj (Entries.ofList entries))
  | .mergeArrays info paths, input, _ => do
    let merged ← mergePaths paths input
    e.transform info (.arr (Json.dedup merged))

/-- The values of nodes against an input, in order. -/
def mapFields : List Node → Json → Parameters → Reporting MappingError Fields
  | [], _, _ => pure []
  | n :: ns, input, params => do
    let v ← mapNode n input params
    let fs ← mapFields ns input params
    pure ((n.info, v) :: fs)

/-- The sets of attributes of groups against an input, in order, without those rejected. -/
def mapGroups : List (List Node) → List Limit → Json → Parameters →
    Reporting MappingError (List Json)
  | [], _, _, _ => pure []
  | g :: gs, limits, input, params => do
    let fs ← mapFields g input params
    let sets ← mapGroups gs limits input params
    pure ((e.attributeSet limits fs).toList ++ sets)

end

/-! ## 6. Documents -/

/-- The key whose value replaces the whole output. -/
def unwrapKey : String := "unwrap"

/-- The output of merged entries: the value under `unwrap`, or all of them. -/
def unwrap (merged : Entries Json) : Json := (Entries.get? unwrapKey merged).getD (.obj merged)

/-- The output of an input.  The keys of the input are read in lower case. -/
def apply (input : Json) : Reporting MappingError Json := do
  let fs ← e.mapFields e.document.objects input.normalizeKeys []
  pure (unwrap (Entries.ofList (entriesOf fs)))

end Engine

end Reshape
