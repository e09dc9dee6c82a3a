/-
# Linting a document

A document is looked through once: its definitions of conditions by name, and then every node
before the nodes below it.  Of a node come the conditions that are not defined, a list of
conditions that is never looked at, the transforms that are not always there, and the
limitations that are not defined, in this order.

`Document.findings` gathers all that is found; without findings that are errors the document
can be run.
-/
import Reshape.Condition.Builtin
import Reshape.Lint.Finding
import Reshape.Schema.Loader
import Reshape.Transform.Builtin

namespace Reshape

namespace Document

variable (d : Document)

/-! ## 1. Definitions -/

/-- The finding about a definition, if there is one. -/
def definitionFinding? (name : String) (c : ConditionDef) : Option Finding :=
  match ConditionClasses.builtin.build c with
  | .ok _ => none
  | .error e => some (.unusableCondition name e)

/-- The findings about the definitions of conditions. -/
def definitionFindings : List Finding :=
  d.conditions.filterMap fun e => definitionFinding? e.1 e.2

/-! ## 2. A node by itself -/

/-- The findings about a list whose items are looked at one by one, each with its index. -/
def listFindings (find : Nat → α → Option Finding) (items : List α) : List Finding :=
  items.zipIdx.filterMap fun e => find e.2 e.1

/-- The findings about the conditions of a node. -/
def conditionFindings (place : Location) (specs : List ConditionSpec) : List Finding :=
  listFindings (fun i spec =>
    if d.conditions.contains spec.name then none
    else some (.undefinedCondition ((place.key "conditions").index i) spec.name)) specs

/-- The finding about conditions that are never looked at. -/
def ignoredFinding? (place : Location) (n : Node) : Option Finding :=
  if n.info.conditions.isSome && n.kind? == some .itemsAll then
    some (.ignoredConditions (place.key "conditions"))
  else none

/-- The findings about the transforms of a node. -/
def transformFindings (place : Location) (steps : TransformSpec) : List Finding :=
  listFindings (fun i step =>
    if TransformRegistry.defaultNames.contains step.name then none
    else some (.unknownTransform ((place.key "transform").index i) step.name)) steps

/-- The steps that are found are those that no engine has by itself. -/
theorem transformFindings_eq (place : Location) (steps : TransformSpec) :
    transformFindings place steps = listFindings (fun i step =>
      if TransformRegistry.builtin.contains step.name then none
      else some (.unknownTransform ((place.key "transform").index i) step.name)) steps := by
  simp only [transformFindings, TransformRegistry.contains_builtin]

/-- The findings about the limits of a node. -/
def limitFindings (place : Location) (limits : List Limit) : List Finding :=
  listFindings (fun i limit =>
    if d.limitations.contains limit.limitation then none
    else some (.undefinedLimitation ((place.key "limits").index i) limit.limitation)) limits

/-- The findings about a node, without those about the nodes below it. -/
def ownFindings (place : Location) (n : Node) : List Finding :=
  d.conditionFindings place (n.info.conditions.getD []) ++
    (ignoredFinding? place n).toList ++
    transformFindings place (n.info.transform.getD []) ++
    d.limitFindings place n.info.limits

/-! ## 3. Nodes and the nodes below them -/

mutual

/-- The findings about a node and the nodes below it. -/
def nodeFindings (place : Location) : Node → List Finding
  | .value info path => d.ownFindings place (.value info path)
  | .attributes info path fields =>
    d.ownFindings place (.attributes info path fields) ++
      nodesFindings (place.key NodeKind.attributes.key) 0 fields
  | .nested info fields =>
    d.ownFindings place (.nested info fields) ++
      nodesFindings (place.key NodeKind.nested.key) 0 fields
  | .items info path groups =>
    d.ownFindings place (.items info path groups) ++
      groupsFindings (place.key NodeKind.items.key) 0 groups
  | .itemsAll info path groups exclude =>
    d.ownFindings place (.itemsAll info path groups exclude) ++
      groupsFindings (place.key NodeKind.itemsAll.key) 0 groups
  | .hash info path fields =>
    d.ownFindings place (.hash info path fields) ++
      nodesFindings (place.key NodeKind.hash.key) 0 fields
  | .array info elements =>
    d.ownFindings place (.array info elements) ++
      nodesFindings (place.key NodeKind.array.key) 0 elements
  | .hashArray info path fields =>
    d.ownFindings place (.hashArray info path fields) ++
      nodesFindings (place.key NodeKind.hashArray.key) 0 fields
  | .mergeArrays info paths => d.ownFindings place (.mergeArrays info paths)

/-- The findings about nodes, the first of which has a given index. -/
def nodesFindings (place : Location) (i : Nat) : List Node → List Finding
  | [] => []
  | n :: ns => nodeFindings (place.index i) n ++ nodesFindings place (i + 1) ns

/-- The findings about groups, the first of which has a given index. -/
def groupsFindings (place : Location) (i : Nat) : List (List Node) → List Finding
  | [] => []
  | g :: gs => nodesFindings (place.index i) 0 g ++ groupsFindings place (i + 1) gs

end

/-! ## 4. Documents -/

/-- All that is found in a document. -/
def findings : List Finding :=
  d.definitionFindings ++ d.nodesFindings objectsPlace 0 d.objects

end Document

/-- All that is found in a value that should be a mapping document. -/
def Json.lint (v : Json) : List Finding :=
  match Document.ofJson v with
  | .ok d => d.findings
  | .error e => [.malformed e]

end Reshape
