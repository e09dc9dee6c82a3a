/-
# Reading YAML text

`Yaml.read` answers the value that a YAML text writes.  An alias stands for the node that was
last given its anchor; nodes are expanded to a bounded depth and with a bounded number of
aliases, so every text has a value or a fault.  The text of a scalar key is the key itself,
and a key that is repeated keeps its first place and its last value.

Anchors are numbered by the number of names in use when they are given, and a number stands
for the last node that bears it.
-/
import Reshape.Yaml.Node
import Reshape.Yaml.Resolution

namespace Reshape.Yaml

/-! ## 1. Anchors -/

/-- The numbers of the anchors in use, by name. -/
abbrev AnchorNumbers := Entries Nat

/-- A node whose anchors and aliases are numbers. -/
inductive Bound where
  | alias (number : Nat)
  | scalar (ps : Properties) (number : Option Nat) (plain : Bool) (text : String)
  | sequence (ps : Properties) (number : Option Nat) (items : List Bound)
  | mapping (ps : Properties) (number : Option Nat) (entries : List (Bound × Bound))
deriving Inhabited

/-- Numbers the anchor of a node. -/
def number (ps : Properties) : StateT AnchorNumbers (Except Error) (Option Nat) := do
  match ps.anchor with
  | none => pure none
  | some name =>
    let numbers ← get
    set (numbers.insert name numbers.length)
    pure (some numbers.length)

mutual

/-- Numbers the anchors and aliases of a node, in the order of the text. -/
def bindNode : Node → StateT AnchorNumbers (Except Error) Bound
  | .alias mark name => do
    match (← get).get? name with
    | some n => pure (.alias n)
    | none => throw (.unknownAnchor mark)
  | .scalar ps plain text => do
    let n ← number ps
    pure (.scalar ps n plain text)
  | .sequence ps items => do
    let n ← number ps
    let items ← bindItems items
    pure (.sequence ps n items)
  | .mapping ps entries => do
    let n ← number ps
    let entries ← bindEntries entries
    pure (.mapping ps n entries)

def bindItems : List Node → StateT AnchorNumbers (Except Error) (List Bound)
  | [] => pure []
  | v :: vs => do
    let b ← bindNode v
    let bs ← bindItems vs
    pure (b :: bs)

def bindEntries : List (Node × Node) → StateT AnchorNumbers (Except Error) (List (Bound × Bound))
  | [] => pure []
  | (k, v) :: es => do
    let bk ← bindNode k
    let bv ← bindNode v
    let bs ← bindEntries es
    pure ((bk, bv) :: bs)

end

/-- A node as the only bearer of its number. -/
def labelled (n : Option Nat) (b : Bound) : List (Nat × Bound) := n.toList.map (·, b)

mutual

/-- The numbered nodes of a tree, in the order of the text. -/
def numbered : Bound → List (Nat × Bound)
  | .alias _ => []
  | .scalar ps n plain text => labelled n (.scalar ps n plain text)
  | .sequence ps n items => labelled n (.sequence ps n items) ++ numberedItems items
  | .mapping ps n entries => labelled n (.mapping ps n entries) ++ numberedEntries entries

def numberedItems : List Bound → List (Nat × Bound)
  | [] => []
  | b :: bs => numbered b ++ numberedItems bs

def numberedEntries : List (Bound × Bound) → List (Nat × Bound)
  | [] => []
  | (k, v) :: es => numbered k ++ numbered v ++ numberedEntries es

end

mutual

/-- The size of a tree; a collection counts twice. -/
def weight : Bound → Nat
  | .sequence _ _ items => 2 + weightItems items
  | .mapping _ _ entries => 2 + weightEntries entries
  | _ => 1

def weightItems : List Bound → Nat
  | [] => 0
  | b :: bs => weight b + weightItems bs

def weightEntries : List (Bound × Bound) → Nat
  | [] => 0
  | (k, v) :: es => weight k + weight v + weightEntries es

end

/-- The node that bears a number: the last one. -/
def bearer? (table : List (Nat × Bound)) (n : Nat) : Option Bound :=
  (table.reverse.find? fun e => e.1 == n).map Prod.snd

/-! ## 2. Values -/

/-- The number of aliases that may still be expanded is threaded through. -/
abbrev Expansion := StateT Nat (Except Error)

/-- The node that a node stands for, itself unless it is an alias. -/
def expand (table : List (Nat × Bound)) : Bound → Expansion Bound
  | .alias n => do
    match ← get with
    | 0 => throw .tooManyAliases
    | left + 1 =>
      set left
      match bearer? table n with
      | some b => pure b
      | none => throw (.unknownAnchor .start)
  | b => pure b

/-- Does a tag name a kind of its own? -/
def isOwnTag (tag : Option String) : Bool := (tag.map (·.startsWith "!")).getD false

/-- The value of a scalar. -/
def scalarValue (tag : Option String) (plain : Bool) (text : String) : Except Complaint Json :=
  match tag with
  | some tag =>
    if tag.startsWith "!" then .error .tagged else (taggedValue? tag text).getD (.ok (.str text))
  | none => if plain then plainValue text else .ok (.str text)

/-- The place of an item in a value. -/
def itemPath (path : String) (i : Nat) : String := s!"{path}[{i}]"

/-- The place of an entry in a value. -/
def entryPath (path key : String) : String := if path = "." then key else s!"{path}.{key}"

/-- The text of a key. -/
def keyText (table : List (Nat × Bound)) (path : String) (key : Bound) : Expansion String := do
  match ← expand table key with
  | .scalar _ _ _ text => pure text
  | .sequence ps _ _ => throw (.content (.keyKind "sequence") path ps.mark)
  | .mapping ps _ _ => throw (.content (.keyKind "map") path ps.mark)
  | .alias _ => throw (.unknownAnchor .start)

/-- The value of a node whose parts are read by `inner`; without it the node may not be a
collection. -/
def valueWith (table : List (Nat × Bound)) (inner : Option (String → Bound → Expansion Json))
    (path : String) (node : Bound) : Expansion Json := do
  match ← expand table node with
  | .alias _ => throw (.unknownAnchor .start)
  | .scalar ps _ plain text =>
    match scalarValue ps.tag plain text with
    | .ok v => pure v
    | .error complaint => throw (.content complaint path ps.mark)
  | .sequence ps _ items =>
    if isOwnTag ps.tag then throw (.content .tagged path ps.mark)
    match inner with
    | none => throw (.tooDeep ps.mark)
    | some read =>
      let vs ← items.zipIdx.mapM fun e => read (itemPath path e.2) e.1
      pure (.arr vs)
  | .mapping ps _ entries =>
    if isOwnTag ps.tag then throw (.content .tagged path ps.mark)
    match inner with
    | none => throw (.tooDeep ps.mark)
    | some read =>
      let es ← entries.mapM fun e => do
        let k ← keyText table path e.1
        let v ← read (entryPath path k) e.2
        pure (k, v)
      pure (.obj (Entries.ofList es))

/-- The value of a node in which collections nest at most `depth` deep. -/
def value (table : List (Nat × Bound)) : Nat → String → Bound → Expansion Json
  | 0 => valueWith table none
  | depth + 1 => valueWith table (some (value table depth))

/-- How deep collections may nest. -/
def maxDepth : Nat := 128

/-- How many aliases may be expanded for each part of a tree. -/
def aliasesPerPart : Nat := 100

/-! ## 3. Texts -/

/-- The value of a tree. -/
def valueOf (root : Node) : Except Error Json := do
  let (bound, _) ← (bindNode root).run []
  let aliases := aliasesPerPart * weight bound
  let (v, _) ← (value (numbered bound) maxDepth "." bound).run aliases
  pure v

/-- The value that a YAML text writes; nothing written is null. -/
def read (s : String) : Except Error Json := do
  match ← Document.ofTokens (Tokens.ofText s) with
  | some root => valueOf root
  | none => pure .null

end Reshape.Yaml
