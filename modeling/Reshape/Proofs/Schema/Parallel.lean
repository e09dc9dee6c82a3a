/-
# Schemas of one shape

Two nodes are parallel if their trees have one shape and the same paths.  What the nodes of the
trees say beside their kinds is compared by a relation, which may depend on the kind.

A node is parallel to itself (`parallel_self`), and to what becomes of it if what its nodes say
is changed one by one (`parallel_mapInfos`).
-/
import Mathlib.Data.List.Forall2
import Reshape.Proofs.Schema.Within

namespace Reshape

/-! ## 1. Parallel nodes -/

/-- Two nodes have one shape and the same paths, in their trees; what they say beside that is
compared by `info`. -/
inductive Node.Parallel (info : Option NodeKind → NodeInfo → NodeInfo → Prop) :
    Node → Node → Prop
  | value {i j : NodeInfo} {p : Option Path} (hi : info none i j) :
      Parallel info (.value i p) (.value j p)
  | attributes {i j : NodeInfo} {p : Path} {ns ms : List Node} (hi : info (some .attributes) i j)
      (h : List.Forall₂ (Parallel info) ns ms) :
      Parallel info (.attributes i p ns) (.attributes j p ms)
  | nested {i j : NodeInfo} {ns ms : List Node} (hi : info (some .nested) i j)
      (h : List.Forall₂ (Parallel info) ns ms) : Parallel info (.nested i ns) (.nested j ms)
  | items {i j : NodeInfo} {p : Path} {gs hs : List (List Node)} (hi : info (some .items) i j)
      (h : List.Forall₂ (List.Forall₂ (Parallel info)) gs hs) :
      Parallel info (.items i p gs) (.items j p hs)
  | itemsAll {i j : NodeInfo} {p : Path} {gs hs : List (List Node)} {exclude : List String}
      (hi : info (some .itemsAll) i j) (h : List.Forall₂ (List.Forall₂ (Parallel info)) gs hs) :
      Parallel info (.itemsAll i p gs exclude) (.itemsAll j p hs exclude)
  | hash {i j : NodeInfo} {p : Path} {ns ms : List Node} (hi : info (some .hash) i j)
      (h : List.Forall₂ (Parallel info) ns ms) : Parallel info (.hash i p ns) (.hash j p ms)
  | array {i j : NodeInfo} {ns ms : List Node} (hi : info (some .array) i j)
      (h : List.Forall₂ (Parallel info) ns ms) : Parallel info (.array i ns) (.array j ms)
  | hashArray {i j : NodeInfo} {p : Path} {ns ms : List Node} (hi : info (some .hashArray) i j)
      (h : List.Forall₂ (Parallel info) ns ms) :
      Parallel info (.hashArray i p ns) (.hashArray j p ms)
  | mergeArrays {i j : NodeInfo} {ps : List Path} (hi : info (some .mergeArrays) i j) :
      Parallel info (.mergeArrays i ps) (.mergeArrays j ps)

theorem Node.Parallel.info {info : Option NodeKind → NodeInfo → NodeInfo → Prop} {n m : Node}
    (h : n.Parallel info m) : info n.kind? n.info m.info := by
  cases h <;> assumption

/-- Items in a relation with what becomes of them, in step. -/
theorem forall₂_map_of_mem {α β : Type} {R : α → β → Prop} {f : α → β} {xs : List α}
    (h : ∀ x ∈ xs, R x (f x)) : List.Forall₂ R xs (xs.map f) :=
  List.forall₂_map_right_iff.mpr (List.forall₂_same.mpr h)

namespace Node

/-! ## 2. Changing what nodes say -/

mutual

/-- The node with `f` done to what each node of its tree says beside its kind. -/
def mapInfos (f : Option NodeKind → NodeInfo → NodeInfo) : Node → Node
  | value i p => value (f none i) p
  | attributes i p ns => attributes (f (some .attributes) i) p (mapInfosAll f ns)
  | nested i ns => nested (f (some .nested) i) (mapInfosAll f ns)
  | items i p gs => items (f (some .items) i) p (mapInfosGroups f gs)
  | itemsAll i p gs exclude => itemsAll (f (some .itemsAll) i) p (mapInfosGroups f gs) exclude
  | hash i p ns => hash (f (some .hash) i) p (mapInfosAll f ns)
  | array i ns => array (f (some .array) i) (mapInfosAll f ns)
  | hashArray i p ns => hashArray (f (some .hashArray) i) p (mapInfosAll f ns)
  | mergeArrays i ps => mergeArrays (f (some .mergeArrays) i) ps

def mapInfosAll (f : Option NodeKind → NodeInfo → NodeInfo) : List Node → List Node
  | [] => []
  | n :: ns => mapInfos f n :: mapInfosAll f ns

def mapInfosGroups (f : Option NodeKind → NodeInfo → NodeInfo) : List (List Node) → List (List Node)
  | [] => []
  | g :: gs => mapInfosAll f g :: mapInfosGroups f gs

end

variable {info : Option NodeKind → NodeInfo → NodeInfo → Prop}
  {f : Option NodeKind → NodeInfo → NodeInfo}

@[simp] theorem mapInfosAll_eq_map (ns : List Node) : mapInfosAll f ns = ns.map (mapInfos f) := by
  induction ns with
  | nil => rfl
  | cons n ns ih => rw [mapInfosAll, ih, List.map_cons]

@[simp] theorem mapInfosGroups_eq_map (gs : List (List Node)) :
    mapInfosGroups f gs = gs.map fun g => g.map (mapInfos f) := by
  induction gs with
  | nil => rfl
  | cons g gs ih => rw [mapInfosGroups, ih, mapInfosAll_eq_map, List.map_cons]

/-- A node is parallel to what becomes of it, if what each node of its tree says is related to
what becomes of that. -/
theorem parallel_mapInfos {n : Node}
    (h : ∀ m : Node, m.Within n → info m.kind? m.info (f m.kind? m.info)) :
    n.Parallel info (n.mapInfos f) := by
  induction n using induct_children with
  | step n ih =>
    have hself := h n .self
    have hchildren : ∀ m ∈ n.children, m.Parallel info (m.mapInfos f) :=
      fun m hm => ih m hm fun k hk => h k (.child hm hk)
    have hall : ∀ {ns : List Node}, (∀ m ∈ ns, m.Parallel info (m.mapInfos f)) →
        List.Forall₂ (Parallel info) ns (mapInfosAll f ns) := by
      intro ns hns
      rw [mapInfosAll_eq_map]
      exact forall₂_map_of_mem hns
    have hgroups : ∀ {gs : List (List Node)}, (∀ m ∈ gs.flatten, m.Parallel info (m.mapInfos f)) →
        List.Forall₂ (List.Forall₂ (Parallel info)) gs (mapInfosGroups f gs) := by
      intro gs hgs
      rw [mapInfosGroups_eq_map]
      refine forall₂_map_of_mem fun g hg => forall₂_map_of_mem fun m hm => ?_
      exact hgs m (List.mem_flatten.mpr ⟨g, hg, hm⟩)
    cases n with
    | value => exact .value hself
    | attributes => exact .attributes hself (hall hchildren)
    | nested => exact .nested hself (hall hchildren)
    | items => exact .items hself (hgroups hchildren)
    | itemsAll => exact .itemsAll hself (hgroups hchildren)
    | hash => exact .hash hself (hall hchildren)
    | array => exact .array hself (hall hchildren)
    | hashArray => exact .hashArray hself (hall hchildren)
    | mergeArrays => exact .mergeArrays hself

/-- What nodes say may be kept. -/
theorem mapInfos_self (n : Node) : n.mapInfos (fun _ i => i) = n := by
  have hall : ∀ {ns : List Node}, (∀ m ∈ ns, m.mapInfos (fun _ i => i) = m) →
      mapInfosAll (fun _ i => i) ns = ns := by
    intro ns hns
    rw [mapInfosAll_eq_map, List.map_congr_left hns, List.map_id']
  have hgroups : ∀ {gs : List (List Node)}, (∀ g ∈ gs, ∀ m ∈ g, m.mapInfos (fun _ i => i) = m) →
      mapInfosGroups (fun _ i => i) gs = gs := by
    intro gs hgs
    rw [mapInfosGroups_eq_map, List.map_congr_left fun g hg => ?_, List.map_id']
    rw [← mapInfosAll_eq_map]
    exact hall (hgs g hg)
  induction n with
  | value | mergeArrays => rfl
  | attributes _ _ _ ih | nested _ _ ih | hash _ _ _ ih | array _ _ ih | hashArray _ _ _ ih =>
    rw [mapInfos, hall ih]
  | items _ _ _ ih | itemsAll _ _ _ _ ih => rw [mapInfos, hgroups ih]

/-- A node is parallel to itself, if what each node of its tree says is related to itself. -/
theorem parallel_self {n : Node} (h : ∀ m : Node, m.Within n → info m.kind? m.info m.info) :
    n.Parallel info n := by
  have hmap : n.Parallel info (n.mapInfos fun _ i => i) := parallel_mapInfos h
  rwa [mapInfos_self] at hmap

end Node

end Reshape
