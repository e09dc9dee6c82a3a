/-
# The grammar of schemas

Which values are schema nodes (`IsNode`) and which are documents (`IsDocument`), said of the
values alone: what stands under which key, and nothing about the order in which it is looked at
or about the first fault.  Loading succeeds on these values and on no others.

A node loads as its fields and its body do.  The fields are told apart by what they hold, which
may mostly be missing or null; the body is a list of nodes, of groups or of paths, so the
statement for a node rests on those for the nodes in its body, which are smaller values.

Main statements: `load_iff` and `document_iff`.
-/
import Mathlib.Data.Set.List
import Reshape.Proofs.Sequence
import Reshape.Schema.Loader

namespace Reshape

/-! ## 1. Nodes and documents as values -/

/-- What stands under the key of a kind. -/
inductive NodeKind.Body where
  | nodes
  | groups
  | paths
deriving DecidableEq

def NodeKind.body : NodeKind → NodeKind.Body
  | attributes | nested | hash | array | hashArray => .nodes
  | items | itemsAll => .groups
  | mergeArrays => .paths

/-- Kinds whose nodes need a path. -/
def NodeKind.NeedsPath : NodeKind → Prop
  | attributes | items | itemsAll | hash | hashArray => True
  | nested | array | mergeArrays => False

namespace Grammar

/-- A value that may be missing or null. -/
def Optional (P : Json → Prop) (v? : Option Json) : Prop :=
  ∀ v, v? = some v → v = .null ∨ P v

/-- A text under a key. -/
def HasText (key : String) (es : Entries Json) : Prop :=
  ∃ s, Entries.get? key es = some (.str s)

def IsText (v : Json) : Prop := ∃ s, v = .str s

def IsList (P : Json → Prop) (v : Json) : Prop := ∃ vs, v = .arr vs ∧ ∀ w ∈ vs, P w

def IsObject (P : Entries Json → Prop) (v : Json) : Prop := ∃ es, v = .obj es ∧ P es

/-- One step or a list of steps. -/
def IsTransform (v : Json) : Prop := IsText v ∨ IsList IsText v

/-- A reference to a condition. -/
def IsSpec : Json → Prop :=
  IsObject fun es => HasText "name" es ∧ Optional IsText (Entries.get? "field" es)

/-- A limit; null is none. -/
def IsLimit (v : Json) : Prop := v = .null ∨ ∃ key name, v = .obj [(key, .str name)]

/-- The definition of a condition. -/
def IsDefinition : Json → Prop := IsObject (HasText "class")

/-- The fields of a node of a kind, its body left aside. -/
structure HasFields (unnamed : Bool) (kind? : Option NodeKind) (es : Entries Json) : Prop where
  name : HasText "name" es ∨ (unnamed = true ∧ Entries.get? "name" es = none)
  /-- The keys of other kinds are missing, whatever stands under this one. -/
  marks : ∀ k : NodeKind, Entries.contains k.key es = true ↔ kind? = some k
  path : Optional IsText (Entries.get? "path" es)
  needsPath : ∀ k, kind? = some k → k.NeedsPath → HasText "path" es
  transform : Optional IsTransform (Entries.get? "transform" es)
  conditions : Optional (IsList IsSpec) (Entries.get? "conditions" es)
  limits : Optional (IsList IsLimit) (Entries.get? "limits" es)
  exclude : kind? = some .itemsAll → Optional (IsList IsText) (Entries.get? "exclude" es)

/-- A value that is a node.  Only a node right in the list of an array may be unnamed. -/
inductive IsNode : Bool → Json → Prop
  | value {unnamed : Bool} {es : Entries Json} (h : HasFields unnamed none es) :
      IsNode unnamed (.obj es)
  | nodes {unnamed : Bool} {es : Entries Json} {k : NodeKind} {vs : List Json}
      (hk : k.body = .nodes) (h : HasFields unnamed (some k) es)
      (hb : Entries.get? k.key es = some (.arr vs))
      (hv : ∀ v ∈ vs, IsNode (decide (k = .array)) v) : IsNode unnamed (.obj es)
  | groups {unnamed : Bool} {es : Entries Json} {k : NodeKind} {gs : List (List Json)}
      (hk : k.body = .groups) (h : HasFields unnamed (some k) es)
      (hb : Entries.get? k.key es = some (.arr (gs.map .arr)))
      (hv : ∀ g ∈ gs, ∀ v ∈ g, IsNode false v) : IsNode unnamed (.obj es)
  | paths {unnamed : Bool} {es : Entries Json} {k : NodeKind} {v : Json}
      (hk : k.body = .paths) (h : HasFields unnamed (some k) es)
      (hb : Entries.get? k.key es = some v) (hv : IsList IsText v) : IsNode unnamed (.obj es)

/-- A value that is a document. -/
def IsDocument : Json → Prop :=
  IsObject fun es =>
    Optional (IsObject fun defs => ∀ d ∈ defs, IsDefinition d.2) (Entries.get? "conditions" es) ∧
    Optional (IsObject fun _ => True) (Entries.get? "limitations" es) ∧
    ∃ v, Entries.get? "objects" es = some v ∧ IsList (IsNode false) v

/-! ## 2. Runs that succeed -/

section Runs

variable {ε α β : Type}

theorem exists_bind_ok {x : Except ε α} {f : α → Except ε β} :
    (∃ b, x >>= f = .ok b) ↔ ∃ a, x = .ok a ∧ ∃ b, f a = .ok b := by
  simp only [Result.bind_eq_ok]
  constructor
  · rintro ⟨b, a, ha, hb⟩
    exact ⟨a, ha, b, hb⟩
  · rintro ⟨a, ha, b, hb⟩
    exact ⟨b, a, ha, hb⟩

/-- Going through a list succeeds on lists of what it succeeds on. -/
theorem exists_mapM_ok {f : Json → Except ε β} {P : Json → Prop}
    (hf : ∀ v, (∃ b, f v = .ok b) ↔ P v) (vs : List Json) :
    (∃ bs, vs.mapM f = .ok bs) ↔ IsList P (.arr vs) := by
  simp only [Result.mapM_eq_ok, Result.exists_forall₂, hf, IsList, Json.arr.injEq,
    exists_eq_left']

/-- A field that may be left out. -/
theorem exists_optional_ok {f : Option Json → Except ε β} {P : Json → Prop}
    (hnone : ∃ b, f none = .ok b) (hnull : ∃ b, f (some .null) = .ok b)
    (hsome : ∀ v, v ≠ .null → ((∃ b, f (some v) = .ok b) ↔ P v)) (v? : Option Json) :
    (∃ b, f v? = .ok b) ↔ Optional P v? := by
  rcases v? with _ | v
  · simp [Optional, hnone]
  · by_cases hv : v = .null
    · simp [Optional, hv, hnull]
    · simp [Optional, hv, hsome v hv]

end Runs

/-! ## 3. Fields -/

open Node

variable {place : Location} {unnamed : Bool} {es : Entries Json}

theorem loadName_ok : (∃ s, loadName place unnamed es = .ok s) ↔
    HasText "name" es ∨ (unnamed = true ∧ Entries.get? "name" es = none) := by
  unfold loadName HasText
  rcases Entries.get? "name" es with _ | v
  · cases unnamed <;> simp [malformed]
  · cases v <;> simp [malformed]

theorem expectPath_ok (v : Json) : (∃ p, expectPath v = .ok p) ↔ IsText v := by
  cases v <;> simp [expectPath, IsText]

theorem optionalPath_ok (v? : Option Json) :
    (∃ p, optionalPath v? = .ok p) ↔ Optional IsText v? := by
  refine exists_optional_ok (by simp [optionalPath]) (by simp [optionalPath]) ?_ v?
  intro v hv
  cases v <;> simp_all [optionalPath, expectPath, IsText, Except.map]

theorem loadPaths_ok (v : Json) : (∃ ps, loadPaths place v = .ok ps) ↔ IsList IsText v := by
  cases v with
  | arr vs => exact exists_mapM_ok expectPath_ok vs
  | _ => simp [loadPaths, IsList, malformed]

theorem loadExclude_ok (v? : Option Json) :
    (∃ ks, loadExclude place v? = .ok ks) ↔ Optional (IsList IsText) v? := by
  refine exists_optional_ok (by simp [loadExclude]) (by simp [loadExclude]) ?_ v?
  intro v hv
  cases v with
  | null => exact absurd rfl hv
  | arr vs =>
    refine exists_mapM_ok (fun w => ?_) vs
    cases w <;> simp [IsText, malformed]
  | _ => simp [loadExclude, IsList, malformed]

theorem loadTransform_ok (v? : Option Json) :
    (∃ t, loadTransform place v? = .ok t) ↔ Optional IsTransform v? := by
  refine exists_optional_ok (by simp [loadTransform]) (by simp [loadTransform]) ?_ v?
  intro v hv
  cases v with
  | null => exact absurd rfl hv
  | arr vs =>
    have hsteps : IsTransform (.arr vs) ↔ IsList IsText (.arr vs) := by
      simp [IsTransform, IsText]
    rw [loadTransform, exists_bind_ok, hsteps]
    simp only [pure, Except.pure, Except.ok.injEq, exists_eq', and_true]
    refine exists_mapM_ok (fun w => ?_) vs
    cases w <;> simp [IsText, malformed]
  | _ => simp [loadTransform, IsTransform, IsText, IsList, malformed]

theorem loadSpec_ok (v : Json) : (∃ c, loadSpec place v = .ok c) ↔ IsSpec v := by
  cases v with
  | obj es =>
    have hspec : IsSpec (.obj es) ↔
        HasText "name" es ∧ Optional IsText (Entries.get? "field" es) := by
      simp [IsSpec, IsObject]
    rw [hspec, ← optionalPath_ok, loadSpec, HasText]
    split
    · next name hname => simp [hname, exists_bind_ok, pure, Except.pure]
    · next hname => simp_all [malformed]
  | _ => simp [loadSpec, IsSpec, IsObject, malformed]

theorem loadConditions_ok (v? : Option Json) :
    (∃ cs, loadConditions place v? = .ok cs) ↔ Optional (IsList IsSpec) v? := by
  refine exists_optional_ok (by simp [loadConditions]) (by simp [loadConditions]) ?_ v?
  intro v hv
  cases v with
  | null => exact absurd rfl hv
  | arr vs => rw [loadConditions, Result.exists_map_ok, exists_mapM_ok loadSpec_ok]
  | _ => simp [loadConditions, IsList, malformed]

theorem loadLimit_ok (v : Json) : (∃ l, loadLimit place v = .ok l) ↔ IsLimit v := by
  unfold loadLimit
  split <;> simp_all [IsLimit, malformed]

theorem loadLimits_ok (v? : Option Json) :
    (∃ ls, loadLimits place v? = .ok ls) ↔ Optional (IsList IsLimit) v? := by
  refine exists_optional_ok (by simp [loadLimits]) (by simp [loadLimits]) ?_ v?
  intro v hv
  cases v with
  | null => exact absurd rfl hv
  | arr vs =>
    rw [loadLimits, exists_bind_ok]
    simp only [pure, Except.pure, Except.ok.injEq, exists_eq', and_true]
    exact exists_mapM_ok loadLimit_ok vs
  | _ => simp [loadLimits, IsList, malformed]

theorem loadInfo_ok {name : String} : (∃ info, loadInfo place name es = .ok info) ↔
    Optional IsTransform (Entries.get? "transform" es) ∧
    Optional (IsList IsSpec) (Entries.get? "conditions" es) ∧
    Optional (IsList IsLimit) (Entries.get? "limits" es) := by
  simp [loadInfo, exists_bind_ok, pure, Except.pure, loadTransform_ok, loadConditions_ok,
    loadLimits_ok]

/-- The marks are those of one kind or none exactly if the keys of all others are missing. -/
theorem marks_eq_iff {kind? : Option NodeKind} : marks es = kind?.toList ↔
    ∀ k : NodeKind, Entries.contains k.key es = true ↔ kind? = some k := by
  have hmem : ∀ k, k ∈ marks es ↔ Entries.contains k.key es = true := by
    intro k
    simp [marks, NodeKind.mem_all]
  simp only [← hmem]
  constructor
  · intro h k
    rw [h, Option.mem_toList]
  · intro h
    have hnodup : (marks es).Nodup := List.Nodup.sublist List.filter_sublist (by decide)
    cases kind? with
    | none => exact List.eq_nil_iff_forall_not_mem.mpr fun k hk => by cases (h k).mp hk
    | some k =>
      refine List.perm_singleton.mp ((List.perm_ext_iff_of_nodup hnodup (by simp)).mpr ?_)
      intro k'
      rw [h, List.mem_singleton, Option.some.injEq, eq_comm]

/-! ## 4. Bodies -/

/-- Loading under a key is loading what stands under it. -/
theorem nodesUnder_eq (key : String) (es : Entries Json) : nodesUnder place unnamed key es =
    ((Entries.get? key es).map (loadNodes place unnamed)).getD (.ok []) := by
  induction es with
  | nil => simp [nodesUnder]
  | cons entry es ih =>
    obtain ⟨k, v⟩ := entry
    by_cases hk : k = key <;> simp [nodesUnder, hk, ih]

theorem groupsUnder_eq (key : String) (es : Entries Json) : groupsUnder place key es =
    ((Entries.get? key es).map (loadGroups place)).getD (.ok []) := by
  induction es with
  | nil => simp [groupsUnder]
  | cons entry es ih =>
    obtain ⟨k, v⟩ := entry
    by_cases hk : k = key <;> simp [groupsUnder, hk, ih]

/-- Wherever it stands, a value loads as a node exactly if it meets `P`. -/
def LoadsIff (P : Json → Prop) (unnamed : Bool) (v : Json) : Prop :=
  ∀ place, (∃ n, load place unnamed v = .ok n) ↔ P v

variable {P : Json → Prop}

theorem nodesFrom_ok {vs : List Json} (h : ∀ v ∈ vs, LoadsIff P unnamed v)
    (i : Nat) : (∃ ns, nodesFrom place unnamed i vs = .ok ns) ↔ ∀ v ∈ vs, P v := by
  induction vs generalizing i with
  | nil => simp [nodesFrom]
  | cons v vs ih =>
    have hv := h v List.mem_cons_self (place.index i)
    have hvs := ih (fun w hw => h w (List.mem_cons_of_mem v hw)) (i + 1)
    simp [nodesFrom, exists_bind_ok, pure, Except.pure, hv, hvs]

theorem loadNodes_ok (place : Location) {v : Json}
    (h : ∀ vs, v = .arr vs → ∀ w ∈ vs, LoadsIff P unnamed w) :
    (∃ ns, loadNodes place unnamed v = .ok ns) ↔ IsList P v := by
  cases v with
  | arr vs => simp [loadNodes, nodesFrom_ok (h vs rfl), IsList]
  | _ => simp [loadNodes, IsList, malformed]

theorem groupsFrom_ok {vs : List Json}
    (h : ∀ v ∈ vs, ∀ ws, v = .arr ws → ∀ w ∈ ws, LoadsIff P false w) (i : Nat) :
    (∃ gs, groupsFrom place i vs = .ok gs) ↔ ∀ v ∈ vs, IsList P v := by
  induction vs generalizing i with
  | nil => simp [groupsFrom]
  | cons v vs ih =>
    have hv := loadNodes_ok (place.index i) (h v List.mem_cons_self)
    have hvs := ih (fun w hw => h w (List.mem_cons_of_mem v hw)) (i + 1)
    simp [groupsFrom, exists_bind_ok, pure, Except.pure, hv, hvs]

theorem loadGroups_ok (place : Location) {v : Json}
    (h : ∀ vs, v = .arr vs → ∀ w ∈ vs, ∀ us, w = .arr us → ∀ u ∈ us, LoadsIff P false u) :
    (∃ gs, loadGroups place v = .ok gs) ↔ IsList (IsList P) v := by
  cases v with
  | arr vs => simp [loadGroups, groupsFrom_ok (h vs rfl), IsList]
  | _ => simp [loadGroups, IsList, malformed]

/-! ## 5. Nodes -/

/-- What is under the mark of a node loads. -/
def BodyLoads (place : Location) (es : Entries Json) : Option NodeKind → Prop
  | none => True
  | some k =>
    match k.body with
    | .nodes => ∃ ns, nodesUnder (place.key k.key) (decide (k = .array)) k.key es = .ok ns
    | .groups => ∃ gs, groupsUnder (place.key k.key) k.key es = .ok gs
    | .paths => ∃ ps, loadPaths (place.key k.key) ((Entries.get? k.key es).getD .null) = .ok ps

theorem requirePath_ok {kind : NodeKind} {name : String} {path : Option Path} :
    (∃ p, requirePath place kind name path = .ok p) ↔ path.isSome := by
  cases path <;> simp [requirePath]

theorem optionalPath_some :
    (∃ p, optionalPath (Entries.get? "path" es) = .ok (some p)) ↔ HasText "path" es := by
  unfold HasText
  rcases Entries.get? "path" es with _ | v
  · simp [optionalPath]
  · cases v <;> simp [optionalPath, expectPath, Except.map]

theorem exists_path_iff {N : Prop} :
    (∃ p, optionalPath (Entries.get? "path" es) = .ok p ∧ (N → p.isSome)) ↔
      Optional IsText (Entries.get? "path" es) ∧ (N → HasText "path" es) := by
  rw [← optionalPath_some, ← optionalPath_ok]
  cases optionalPath (Entries.get? "path" es) with
  | error => simp
  | ok p => cases p <;> simp

/-- A node has its fields exactly if they load. -/
theorem hasFields_iff {kind? : Option NodeKind} (hm : marks es = kind?.toList)
    (place : Location) : HasFields unnamed kind? es ↔
      (∃ s, loadName place unnamed es = .ok s) ∧
      (∃ p, optionalPath (Entries.get? "path" es) = .ok p ∧
        ((∃ k, kind? = some k ∧ k.NeedsPath) → p.isSome)) ∧
      (kind? = some .itemsAll → ∃ ks, loadExclude place (Entries.get? "exclude" es) = .ok ks) ∧
      ∃ info, loadInfo place "" es = .ok info := by
  rw [loadName_ok, exists_path_iff, loadExclude_ok, loadInfo_ok]
  constructor
  · rintro ⟨hname, -, hpath, hneeds, htransform, hconditions, hlimits, hexclude⟩
    exact ⟨hname, ⟨hpath, fun ⟨k, hk, hn⟩ => hneeds k hk hn⟩, hexclude, htransform, hconditions,
      hlimits⟩
  · rintro ⟨hname, ⟨hpath, hneeds⟩, hexclude, htransform, hconditions, hlimits⟩
    exact ⟨hname, marks_eq_iff.mp hm, hpath, fun k hk hn => hneeds ⟨k, hk, hn⟩, htransform,
      hconditions, hlimits, hexclude⟩

/-- An object loads exactly if its fields and its body do. -/
theorem load_obj_ok {kind? : Option NodeKind} (hm : marks es = kind?.toList) :
    (∃ n, load place unnamed (.obj es) = .ok n) ↔
      HasFields unnamed kind? es ∧ BodyLoads place es kind? := by
  have hinfo : ∀ name, (∃ info, loadInfo place name es = .ok info) ↔
      ∃ info, loadInfo place "" es = .ok info := fun name => loadInfo_ok.trans loadInfo_ok.symm
  rw [hasFields_iff hm place]
  cases kind? with
  | none => simp [load, hm, exists_bind_ok, BodyLoads, pure, Except.pure, hinfo]
  | some k =>
    -- each kind takes the same steps; they are left to be put into the order of the statement
    cases k <;>
      simp [load, hm, exists_bind_ok, BodyLoads, pure, Except.pure, NodeKind.body,
        requirePath_ok, NodeKind.NeedsPath, NodeKind.key, hinfo] <;>
      grind

theorem exists_marks_of_load (h : ∃ n, load place unnamed (.obj es) = .ok n) :
    ∃ kind? : Option NodeKind, marks es = kind?.toList := by
  obtain ⟨n, h⟩ := h
  rw [load] at h
  obtain ⟨name, -, h⟩ := Result.bind_eq_ok.mp h
  cases hm : marks es with
  | nil => exact ⟨none, rfl⟩
  | cons k ks =>
    cases ks with
    | nil => exact ⟨some k, rfl⟩
    | cons => simp [hm, malformed, bind, Except.bind] at h

/-! ## 6. Nodes below nodes -/

theorem sizeOf_lt_of_get? {key : String} {v : Json} (h : Entries.get? key es = some v) :
    sizeOf v < sizeOf (Json.obj es) := by
  have hlt := List.sizeOf_lt_of_mem (Entries.mem_of_get? h)
  simp only [Prod.mk.sizeOf_spec, Json.obj.sizeOf_spec] at hlt ⊢
  omega

theorem sizeOf_lt_of_mem {vs : List Json} {v : Json} (h : v ∈ vs) :
    sizeOf v < sizeOf (Json.arr vs) := by
  have hlt := List.sizeOf_lt_of_mem h
  simp only [Json.arr.sizeOf_spec]
  omega

/-- Induction over values where an object may use all that is smaller, since the nodes of a node
are two or three levels below it. -/
theorem induct_below {motive : Json → Prop}
    (obj : ∀ es, (∀ w, sizeOf w < sizeOf (Json.obj es) → motive w) → motive (.obj es))
    (other : ∀ v, (∀ es, v ≠ .obj es) → motive v) (v : Json) : motive v := by
  induction h : sizeOf v using Nat.strongRecOn generalizing v with
  | ind _ ih =>
    subst h
    cases v with
    | obj es => exact obj es fun w hw => ih _ hw w rfl
    | _ => exact other _ (by simp)

theorem isList_isList {v : Json} :
    IsList (IsList P) v ↔ ∃ gs : List (List Json), v = .arr (gs.map .arr) ∧
      ∀ g ∈ gs, ∀ w ∈ g, P w := by
  constructor
  · rintro ⟨vs, rfl, h⟩
    have hvs : vs ∈ Set.range (List.map Json.arr) := by
      rw [Set.range_list_map]
      intro w hw
      obtain ⟨g, rfl, -⟩ := h w hw
      exact ⟨g, rfl⟩
    obtain ⟨gs, rfl⟩ := hvs
    simp only [List.mem_map, forall_exists_index, and_imp, forall_apply_eq_imp_iff₂, IsList,
      Json.arr.injEq, exists_eq_left'] at h
    exact ⟨gs, rfl, h⟩
  · rintro ⟨gs, rfl, h⟩
    simpa [IsList] using h

/-- What stands under the mark of a kind. -/
def IsBody (k : NodeKind) (v : Json) : Prop :=
  match k.body with
  | .nodes => IsList (IsNode (decide (k = .array))) v
  | .groups => IsList (IsList (IsNode false)) v
  | .paths => IsList IsText v

theorem isNode_obj_iff : IsNode unnamed (.obj es) ↔ ∃ kind?, HasFields unnamed kind? es ∧
    ∀ k, kind? = some k → ∃ v, Entries.get? k.key es = some v ∧ IsBody k v := by
  constructor
  · intro h
    cases h with
    | value h => exact ⟨none, h, by simp⟩
    | @nodes _ _ k vs hk h hb hv =>
      refine ⟨some k, h, ?_⟩
      rintro _ ⟨⟩
      exact ⟨_, hb, by rw [IsBody, hk]; exact ⟨vs, rfl, hv⟩⟩
    | @groups _ _ k gs hk h hb hv =>
      refine ⟨some k, h, ?_⟩
      rintro _ ⟨⟩
      exact ⟨_, hb, by rw [IsBody, hk]; exact isList_isList.mpr ⟨gs, rfl, hv⟩⟩
    | @paths _ _ k v hk h hb hv =>
      refine ⟨some k, h, ?_⟩
      rintro _ ⟨⟩
      exact ⟨v, hb, by rw [IsBody, hk]; exact hv⟩
  · rintro ⟨_ | k, h, hbody⟩
    · exact .value h
    · obtain ⟨v, hb, hv⟩ := hbody k rfl
      cases hk : k.body with
      | nodes =>
        rw [IsBody, hk] at hv
        obtain ⟨vs, rfl, hv⟩ := hv
        exact .nodes hk h hb hv
      | groups =>
        rw [IsBody, hk] at hv
        obtain ⟨gs, rfl, hgs⟩ := isList_isList.mp hv
        exact .groups hk h hb hgs
      | paths =>
        rw [IsBody, hk] at hv
        exact .paths hk h hb hv

theorem bodyLoads_iff {k : NodeKind} (hk : Entries.contains k.key es = true)
    (ih : ∀ w, sizeOf w < sizeOf (Json.obj es) → ∀ unnamed, LoadsIff (IsNode unnamed) unnamed w) :
    BodyLoads place es (some k) ↔ ∃ v, Entries.get? k.key es = some v ∧ IsBody k v := by
  obtain ⟨v, hv⟩ := Option.isSome_iff_exists.mp hk
  have hlt := sizeOf_lt_of_get? hv
  simp only [BodyLoads, IsBody, nodesUnder_eq, groupsUnder_eq, hv, Option.map_some,
    Option.getD_some, Option.some.injEq, exists_eq_left']
  cases k.body with
  | nodes =>
    refine loadNodes_ok _ ?_
    rintro vs rfl w hw
    exact ih w ((sizeOf_lt_of_mem hw).trans hlt) _
  | groups =>
    refine loadGroups_ok _ ?_
    rintro vs rfl w hw us rfl u hu
    exact ih u (((sizeOf_lt_of_mem hu).trans (sizeOf_lt_of_mem hw)).trans hlt) _
  | paths => exact loadPaths_ok v

/-- **A value loads as a node exactly if it is one.** -/
theorem load_iff (v : Json) : ∀ unnamed, LoadsIff (IsNode unnamed) unnamed v := by
  induction v using induct_below with
  | obj es ih =>
    intro unnamed place
    rw [isNode_obj_iff]
    constructor
    · intro h
      obtain ⟨kind?, hm⟩ := exists_marks_of_load h
      obtain ⟨hfields, hbody⟩ := (load_obj_ok hm).mp h
      refine ⟨kind?, hfields, ?_⟩
      rintro k rfl
      exact (bodyLoads_iff ((hfields.marks k).mpr rfl) ih).mp hbody
    · rintro ⟨kind?, hfields, hbody⟩
      refine (load_obj_ok (marks_eq_iff.mpr hfields.marks)).mpr ⟨hfields, ?_⟩
      cases kind? with
      | none => trivial
      | some k => exact (bodyLoads_iff ((hfields.marks k).mpr rfl) ih).mpr (hbody k rfl)
  | other v hv =>
    intro unnamed place
    constructor
    · rintro ⟨n, hn⟩
      cases v with
      | obj es => exact absurd rfl (hv es)
      | _ => simp [load, malformed] at hn
    · intro h
      cases h <;> exact absurd rfl (hv _)

/-! ## 7. Documents -/

theorem loadDef_ok (name : String) (v : Json) :
    (∃ d, Document.loadDef name v = .ok d) ↔ IsDefinition v := by
  cases v with
  | obj es =>
    have hdef : IsDefinition (.obj es) ↔ HasText "class" es := by simp [IsDefinition, IsObject]
    rw [hdef, Document.loadDef, HasText, Json.get?]
    split
    · next c hc => simp [hc]
    · next hc => simp_all [malformed]
  | _ => simp [Document.loadDef, Json.get?, IsDefinition, IsObject, malformed]

theorem loadDefs_ok (v? : Option Json) : (∃ ds, Document.loadDefs v? = .ok ds) ↔
    Optional (IsObject fun defs => ∀ d ∈ defs, IsDefinition d.2) v? := by
  refine exists_optional_ok (by simp [Document.loadDefs]) (by simp [Document.loadDefs]) ?_ v?
  intro v hv
  cases v with
  | null => exact absurd rfl hv
  | obj es =>
    rw [Document.loadDefs, exists_bind_ok]
    simp only [Result.mapM_eq_ok, pure, Except.pure, Except.ok.injEq, exists_eq', and_true,
      Result.exists_forall₂, IsObject, Json.obj.injEq, exists_eq_left', exists_bind_ok, loadDef_ok]
  | _ => simp [Document.loadDefs, IsObject, malformed]

theorem loadLimitations_ok (v? : Option Json) : (∃ l, Document.loadLimitations v? = .ok l) ↔
    Optional (IsObject fun _ => True) v? := by
  refine exists_optional_ok (by simp [Document.loadLimitations])
    (by simp [Document.loadLimitations]) ?_ v?
  intro v hv
  cases v with
  | null => exact absurd rfl hv
  | _ => simp [Document.loadLimitations, IsObject, malformed]

/-- **A value loads as a document exactly if it is one.** -/
theorem document_iff (v : Json) : (∃ d, Document.ofJson v = .ok d) ↔ IsDocument v := by
  cases v with
  | obj es =>
    have hobjects : ∀ v, (∃ ns, loadNodes Document.objectsPlace false v = .ok ns) ↔
        IsList (IsNode false) v :=
      fun v => loadNodes_ok _ fun vs _ w _ => load_iff w false
    have hdoc : IsDocument (.obj es) ↔
        (∃ ds, Document.loadDefs (Entries.get? "conditions" es) = .ok ds) ∧
        (∃ l, Document.loadLimitations (Entries.get? "limitations" es) = .ok l) ∧
        ∃ v, Entries.get? "objects" es = some v ∧ IsList (IsNode false) v := by
      rw [loadDefs_ok, loadLimitations_ok]
      simp [IsDocument, IsObject]
    rw [hdoc, Document.ofJson]
    rcases Entries.get? "objects" es with _ | v
    · simp [exists_bind_ok, malformed]
    · cases v with
      | null => simp [exists_bind_ok, malformed, IsList]
      | _ => simp [exists_bind_ok, hobjects, pure, Except.pure]
  | _ => simp [Document.ofJson, IsDocument, IsObject, malformed]

end Grammar

end Reshape
