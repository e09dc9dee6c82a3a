/-
# What loading reads

Loading looks at some keys of an object and passes over the others.  `nodePart v` is what is
left of a value when the keys that nodes pass over are taken out of it, and likewise out of its
child nodes and of its references to conditions; `documentPart` is that for documents.  What is
left loads as the whole does, so nothing else is read at any depth.

Main statements: `load_nodePart` and `ofJson_documentPart`; with the grammar they make up
`loads_exactly`.
-/
import Reshape.Proofs.Schema.Grammar

namespace Reshape.Grammar

/-! ## 1. Reading some of the keys -/

/-- Entries read by key: under a key stands what is made of its value, or nothing. -/
def readBy (f : String → Option (Json → Json)) (es : Entries Json) : Entries Json :=
  es.filterMap fun entry => (f entry.1).map fun g => (entry.1, g entry.2)

theorem get?_readBy (f : String → Option (Json → Json)) (key : String) (es : Entries Json) :
    Entries.get? key (readBy f es) = (f key).bind fun g => (Entries.get? key es).map g := by
  induction es with
  | nil => cases f key <;> simp [readBy]
  | cons entry es ih =>
    obtain ⟨k, v⟩ := entry
    unfold readBy at ih ⊢
    by_cases hk : k = key
    · cases h : f k <;> simp_all
    · cases h : f k <;> simp_all

/-- The entries of some keys. -/
def only (keys : List String) : Entries Json → Entries Json :=
  readBy fun key => if key ∈ keys then some id else none

theorem get?_only {key : String} {keys : List String} (h : key ∈ keys) (es : Entries Json) :
    Entries.get? key (only keys es) = Entries.get? key es := by
  simp [only, get?_readBy, h]

/-! ## 2. What nodes and documents read -/

/-- What is read of a reference to a condition. -/
def specPart : Json → Json
  | .obj es => .obj (only ["name", "field", "output"] es)
  | v => v

def specsPart : Json → Json
  | .arr vs => .arr (vs.map specPart)
  | v => v

/-- What a node makes of the value under a key. -/
inductive Use where
  | whole
  | nodes
  | groups
  | specs
  | nothing
deriving DecidableEq

def Use.ofBody : NodeKind.Body → Use
  | .nodes => nodes
  | .groups => groups
  | .paths => whole

/-- The keys that nodes of every kind read, beside that of their conditions. -/
def plainKeys : List String := ["name", "path", "transform", "limits", "default", "require"]

/-- What a node makes of a key.  Only nodes of one kind, which `exclude` tells, exclude keys. -/
def use (exclude : Bool) (key : String) : Use :=
  match NodeKind.all.find? fun k => k.key == key with
  | some k => .ofBody k.body
  | none =>
    if key = "conditions" then .specs
    else if key ∈ plainKeys ∨ (exclude = true ∧ key = "exclude") then .whole
    else .nothing

mutual

/-- What is read of a node. -/
def nodePart : Json → Json
  | .obj es => .obj (entriesPart (Entries.contains NodeKind.itemsAll.key es) es)
  | v => v

def entriesPart (exclude : Bool) : List (String × Json) → List (String × Json)
  | [] => []
  | (k, v) :: es =>
    match use exclude k with
    | .whole => (k, v) :: entriesPart exclude es
    | .nodes => (k, nodesPart v) :: entriesPart exclude es
    | .groups => (k, groupsPart v) :: entriesPart exclude es
    | .specs => (k, specsPart v) :: entriesPart exclude es
    | .nothing => entriesPart exclude es

/-- What is read of a list of nodes. -/
def nodesPart : Json → Json
  | .arr vs => .arr (nodePartEach vs)
  | v => v

def nodePartEach : List Json → List Json
  | [] => []
  | v :: vs => nodePart v :: nodePartEach vs

/-- What is read of a list of groups. -/
def groupsPart : Json → Json
  | .arr vs => .arr (nodesPartEach vs)
  | v => v

def nodesPartEach : List Json → List Json
  | [] => []
  | v :: vs => nodesPart v :: nodesPartEach vs

end

/-- What is read of the definition of a condition. -/
def definitionPart : Json → Json
  | .obj es => .obj (only ["class", "predicate"] es)
  | v => v

def definitionsPart : Json → Json
  | .obj defs => .obj (defs.map fun d => (d.1, definitionPart d.2))
  | v => v

/-- What a document makes of the value under a key. -/
def documentUse (key : String) : Option (Json → Json) :=
  if key = "conditions" then some definitionsPart
  else if key = "limitations" then some id
  else if key = "objects" then some nodesPart
  else none

/-- What is read of a document. -/
def documentPart : Json → Json
  | .obj es => .obj (readBy documentUse es)
  | v => v

/-! ## 3. Under the keys of a node -/

variable {es : Entries Json} {exclude : Bool}

/-- What a use leaves of a value, if anything. -/
def Use.part? : Use → Option (Json → Json)
  | whole => some id
  | nodes => some nodesPart
  | groups => some groupsPart
  | specs => some specsPart
  | nothing => none

theorem entriesPart_eq :
    entriesPart exclude es = readBy (fun key => (use exclude key).part?) es := by
  induction es with
  | nil => rfl
  | cons entry es ih =>
    obtain ⟨k, v⟩ := entry
    rw [entriesPart, ih]
    cases h : use exclude k <;> simp [readBy, h, Use.part?]

theorem get?_entriesPart {key : String} {u : Use} (h : use exclude key = u) :
    Entries.get? key (entriesPart exclude es) =
      u.part?.bind fun g => (Entries.get? key es).map g := by
  rw [entriesPart_eq, get?_readBy, h]

theorem get?_entriesPart_of_whole (key : String) (h : use exclude key = .whole) :
    Entries.get? key (entriesPart exclude es) = Entries.get? key es := by
  simp [get?_entriesPart h, Use.part?]

theorem get?_entriesPart_of_plain (key : String) (h : key ∈ plainKeys) :
    Entries.get? key (entriesPart exclude es) = Entries.get? key es := by
  have huse : ∀ exclude, ∀ key ∈ plainKeys, use exclude key = .whole := by decide
  exact get?_entriesPart_of_whole key (huse exclude key h)

theorem marks_entriesPart : Node.marks (entriesPart exclude es) = Node.marks es := by
  have hcontains : ∀ k : NodeKind,
      Entries.contains k.key (entriesPart exclude es) = Entries.contains k.key es := by
    intro k
    have huse : use exclude k.key = .ofBody k.body := by cases k <;> rfl
    rw [Entries.contains, get?_entriesPart huse]
    cases k.body <;> simp [Use.ofBody, Use.part?, Entries.contains]
  simp [Node.marks, hcontains]

/-! ## 4. Results without their errors -/

section Results

variable {ε α β γ : Type}

theorem toOption_pure (a : α) : (pure a : Except ε α).toOption = some a := rfl

theorem toOption_bind (x : Except ε α) (f : α → Except ε β) :
    (x >>= f).toOption = x.toOption.bind fun a => (f a).toOption := by
  cases x <;> rfl

theorem toOption_map (f : α → β) (x : Except ε α) : (x.map f).toOption = x.toOption.map f := by
  cases x <;> rfl

theorem toOption_mapM {f : γ → Except ε β} {part : γ → γ} {xs : List γ}
    (h : ∀ x ∈ xs, (f (part x)).toOption = (f x).toOption) :
    ((xs.map part).mapM f).toOption = (xs.mapM f).toOption := by
  induction xs with
  | nil => rfl
  | cons x xs ih =>
    have hx := h x List.mem_cons_self
    have hxs := ih fun y hy => h y (List.mem_cons_of_mem x hy)
    simp only [List.map_cons, List.mapM_cons, toOption_bind, hx, hxs]

end Results

/-! ## 5. Fields -/

open Node
open Result (toOption_eq_some)

variable {place : Location} {unnamed : Bool} {name : String}

theorem loadSpec_specPart (v : Json) :
    (loadSpec place (specPart v)).toOption = (loadSpec place v).toOption := by
  cases v with
  | obj es =>
    simp only [specPart, loadSpec]
    rw [get?_only (by simp), get?_only (by simp), get?_only (by simp)]
    split <;> rfl
  | _ => rfl

theorem loadConditions_specsPart (v? : Option Json) :
    (loadConditions place (v?.map specsPart)).toOption = (loadConditions place v?).toOption := by
  rcases v? with _ | v
  · rfl
  · cases v with
    | arr vs =>
      simp only [Option.map_some, specsPart, loadConditions, toOption_map]
      rw [toOption_mapM fun v _ => loadSpec_specPart v]
    | _ => rfl

theorem loadName_entriesPart :
    loadName place unnamed (entriesPart exclude es) = loadName place unnamed es := by
  rw [loadName, get?_entriesPart_of_plain "name" (by decide), loadName]

theorem loadInfo_entriesPart : (loadInfo place name (entriesPart exclude es)).toOption =
    (loadInfo place name es).toOption := by
  have huse : use exclude "conditions" = .specs := rfl
  have hspecs : Entries.get? "conditions" (entriesPart exclude es) =
      (Entries.get? "conditions" es).map specsPart := get?_entriesPart huse
  simp only [loadInfo, toOption_bind, hspecs, loadConditions_specsPart]
  rw [get?_entriesPart_of_plain "transform" (by decide),
    get?_entriesPart_of_plain "limits" (by decide),
    get?_entriesPart_of_plain "default" (by decide),
    get?_entriesPart_of_plain "require" (by decide)]

/-! ## 6. Nodes -/

/-- What is read of a value loads as the value does. -/
def LoadsAlike (v : Json) : Prop :=
  ∀ place unnamed, (load place unnamed (nodePart v)).toOption = (load place unnamed v).toOption

theorem nodesFrom_part {vs : List Json} (h : ∀ v ∈ vs, LoadsAlike v) (i : Nat) :
    (nodesFrom place unnamed i (nodePartEach vs)).toOption =
      (nodesFrom place unnamed i vs).toOption := by
  induction vs generalizing i with
  | nil => rfl
  | cons v vs ih =>
    have hv := h v List.mem_cons_self
    have hvs := ih fun w hw => h w (List.mem_cons_of_mem v hw)
    simp only [nodePartEach, nodesFrom, toOption_bind, hv _ _, hvs]

theorem loadNodes_part {v : Json} (h : ∀ vs, v = .arr vs → ∀ w ∈ vs, LoadsAlike w)
    (place : Location) (unnamed : Bool) :
    (loadNodes place unnamed (nodesPart v)).toOption = (loadNodes place unnamed v).toOption := by
  cases v with
  | arr vs => exact nodesFrom_part (h vs rfl) 0
  | _ => rfl

theorem groupsFrom_part {vs : List Json}
    (h : ∀ v ∈ vs, ∀ ws, v = .arr ws → ∀ w ∈ ws, LoadsAlike w) (i : Nat) :
    (groupsFrom place i (nodesPartEach vs)).toOption = (groupsFrom place i vs).toOption := by
  induction vs generalizing i with
  | nil => rfl
  | cons v vs ih =>
    have hv := loadNodes_part (h v List.mem_cons_self)
    have hvs := ih fun w hw => h w (List.mem_cons_of_mem v hw)
    simp only [nodesPartEach, groupsFrom, toOption_bind, hv, hvs]

theorem loadGroups_part {v : Json}
    (h : ∀ vs, v = .arr vs → ∀ w ∈ vs, ∀ us, w = .arr us → ∀ u ∈ us, LoadsAlike u)
    (place : Location) :
    (loadGroups place (groupsPart v)).toOption = (loadGroups place v).toOption := by
  cases v with
  | arr vs => exact groupsFrom_part (h vs rfl) 0
  | _ => rfl

section Below

variable (h : ∀ w, sizeOf w < sizeOf (Json.obj es) → LoadsAlike w)
include h

theorem nodesUnder_part (key : String) (huse : use exclude key = .nodes) (place : Location)
    (unnamed : Bool) : (nodesUnder place unnamed key (entriesPart exclude es)).toOption =
      (nodesUnder place unnamed key es).toOption := by
  rw [nodesUnder_eq, nodesUnder_eq, get?_entriesPart huse]
  cases hv : Entries.get? key es with
  | none => rfl
  | some v =>
    refine loadNodes_part ?_ place unnamed
    rintro vs rfl w hw
    exact h w ((sizeOf_lt_of_mem hw).trans (sizeOf_lt_of_get? hv))

theorem groupsUnder_part (key : String) (huse : use exclude key = .groups) (place : Location) :
    (groupsUnder place key (entriesPart exclude es)).toOption =
      (groupsUnder place key es).toOption := by
  rw [groupsUnder_eq, groupsUnder_eq, get?_entriesPart huse]
  cases hv : Entries.get? key es with
  | none => rfl
  | some v =>
    refine loadGroups_part ?_ place
    rintro vs rfl w hw us rfl u hu
    exact h u (((sizeOf_lt_of_mem hu).trans (sizeOf_lt_of_mem hw)).trans (sizeOf_lt_of_get? hv))

/-- An object loads by what stands under its keys. -/
theorem loadsAlike_obj : LoadsAlike (.obj es) := by
  intro place unnamed
  rw [nodePart]
  generalize hx : Entries.contains NodeKind.itemsAll.key es = x
  have hpath : Entries.get? "path" (entriesPart x es) = Entries.get? "path" es :=
    get?_entriesPart_of_plain "path" (by decide)
  have hpaths : Entries.get? "merge_arrays" (entriesPart x es) = Entries.get? "merge_arrays" es :=
    get?_entriesPart_of_whole "merge_arrays" rfl
  simp only [load, loadName_entriesPart, marks_entriesPart, hpath, hpaths]
  -- `exclude` is read exactly where it is kept: beside the key that marks its kind
  have hexclude : marks es = [.itemsAll] →
      Entries.get? "exclude" (entriesPart x es) = Entries.get? "exclude" es := by
    intro hm
    have hm' : marks es = (some NodeKind.itemsAll).toList := hm
    have hmark : x = true := hx.symm.trans ((marks_eq_iff.mp hm' .itemsAll).mpr rfl)
    rw [hmark]
    exact get?_entriesPart_of_whole "exclude" rfl
  have hnodes : ∀ key, use x key = .nodes → ∀ place unnamed, _ := nodesUnder_part h
  have hgroups : ∀ key, use x key = .groups → ∀ place, _ := groupsUnder_part h
  rcases hm : marks es with _ | ⟨k, _ | _⟩
  · simp only [toOption_bind, toOption_pure, Option.bind_some, loadInfo_entriesPart]
  · cases k <;> simp only [toOption_bind, toOption_pure, Option.bind_some, loadInfo_entriesPart,
      hnodes "attributes" rfl, hnodes "nested" rfl, hnodes "hash" rfl, hnodes "array" rfl,
      hnodes "hash_array" rfl, hgroups "items" rfl, hgroups "items_all" rfl, hexclude, hm]
  · rfl

end Below

/-- **Nodes read nothing but their parts.** -/
theorem load_nodePart (v : Json) : LoadsAlike v := by
  induction v using induct_below with
  | obj es ih => exact loadsAlike_obj ih
  | other v hv =>
    intro place unnamed
    cases v with
    | obj es => exact absurd rfl (hv es)
    | _ => rfl

/-- Keys are passed over at every depth; `exclude` is read beside `items_all` alone. -/
example :
    nodePart (.obj [("name", .str "user"), ("note", .int 1), ("nested", .arr
      [.obj [("name", .str "id"), ("exclude", .arr []), ("require", .bool true)]])]) =
    .obj [("name", .str "user"), ("nested", .arr
      [.obj [("name", .str "id"), ("require", .bool true)]])] := by
  rfl

/-! ## 7. Documents -/

theorem loadDef_definitionPart (name : String) (v : Json) :
    Document.loadDef name (definitionPart v) = Document.loadDef name v := by
  cases v with
  | obj es =>
    simp only [definitionPart, Document.loadDef, Json.get?]
    rw [get?_only (by simp), get?_only (by simp)]
  | _ => rfl

theorem loadDefs_definitionsPart (v? : Option Json) :
    (Document.loadDefs (v?.map definitionsPart)).toOption = (Document.loadDefs v?).toOption := by
  rcases v? with _ | v
  · rfl
  · cases v with
    | obj defs =>
      simp only [Option.map_some, definitionsPart, Document.loadDefs, toOption_bind]
      rw [toOption_mapM fun d _ => ?_]
      simp only [loadDef_definitionPart]
    | _ => rfl

theorem ofJson_documentPart (v : Json) :
    (Document.ofJson (documentPart v)).toOption = (Document.ofJson v).toOption := by
  cases v with
  | obj es =>
    have hconditions : documentUse "conditions" = some definitionsPart := rfl
    have hlimitations : documentUse "limitations" = some id := rfl
    have hobjects : documentUse "objects" = some nodesPart := rfl
    simp only [documentPart, Document.ofJson, get?_readBy, hconditions, hlimitations, hobjects,
      Option.bind_some, Option.map_id, id_eq, toOption_bind, loadDefs_definitionsPart]
    rcases Entries.get? "objects" es with _ | v
    · rfl
    · cases v with
      | arr vs =>
        have hnodes : (loadNodes Document.objectsPlace false (.arr (nodePartEach vs))).toOption =
            (loadNodes Document.objectsPlace false (.arr vs)).toOption :=
          nodesFrom_part (fun w _ => load_nodePart w) 0
        simp only [Option.map_some, nodesPart, toOption_bind, hnodes]
      | _ => rfl
  | _ => rfl

/-- **Loading accepts the grammar, all of it and nothing else, and reads nothing else.** -/
theorem loads_exactly :
    (∀ v, (∃ n, Node.ofJson v = .ok n) ↔ IsNode false v) ∧
    (∀ v, (∃ d, Document.ofJson v = .ok d) ↔ IsDocument v) ∧
    (∀ v n, Node.ofJson (nodePart v) = .ok n ↔ Node.ofJson v = .ok n) ∧
    (∀ v d, Document.ofJson (documentPart v) = .ok d ↔ Document.ofJson v = .ok d) := by
  refine ⟨fun v => load_iff v false [], document_iff, fun v n => ?_, fun v d => ?_⟩
  · rw [← toOption_eq_some, ← toOption_eq_some]
    exact iff_of_eq (congrArg (· = some n) (load_nodePart v [] false))
  · rw [← toOption_eq_some, ← toOption_eq_some, ofJson_documentPart]

end Reshape.Grammar
