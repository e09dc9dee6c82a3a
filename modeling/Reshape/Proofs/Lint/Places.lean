/-
# Where linting looks

Linting looks at a node and then at the nodes right below it, each at its own place
(`Node.placed`).  `nodeFindings_eq` says so for all kinds of nodes at once.  So what is found of
a document is what is found of its definitions and of the nodes in it, each by itself and at its
own place (`mem_findings_iff`).
-/
import Reshape.Lint.Document
import Reshape.Proofs.Schema.Within

namespace Reshape

/-! ## 1. Nodes with their places -/

namespace Node

/-- Nodes with their places in a list at a place, the first of which has a given index. -/
def placedFrom (place : Location) (i : Nat) (ns : List Node) : List (Location × Node) :=
  (ns.zipIdx i).map fun e => (place.index e.2, e.1)

/-- The nodes of groups with their places; the first group has a given index. -/
def placedInGroups (place : Location) (i : Nat) (gs : List (List Node)) :
    List (Location × Node) :=
  (gs.zipIdx i).flatMap fun e => placedFrom (place.index e.2) 0 e.1

/-- The nodes right below a node with their places. -/
def placed (place : Location) : Node → List (Location × Node)
  | value _ _ => []
  | attributes _ _ ns => placedFrom (place.key NodeKind.attributes.key) 0 ns
  | nested _ ns => placedFrom (place.key NodeKind.nested.key) 0 ns
  | items _ _ gs => placedInGroups (place.key NodeKind.items.key) 0 gs
  | itemsAll _ _ gs _ => placedInGroups (place.key NodeKind.itemsAll.key) 0 gs
  | hash _ _ ns => placedFrom (place.key NodeKind.hash.key) 0 ns
  | array _ ns => placedFrom (place.key NodeKind.array.key) 0 ns
  | hashArray _ _ ns => placedFrom (place.key NodeKind.hashArray.key) 0 ns
  | mergeArrays _ _ => []

theorem placedFrom_nodes (place : Location) (i : Nat) (ns : List Node) :
    (placedFrom place i ns).map Prod.snd = ns := by
  rw [placedFrom, List.map_map]
  exact List.zipIdx_map_fst i ns

theorem placedInGroups_nodes (place : Location) (i : Nat) (gs : List (List Node)) :
    (placedInGroups place i gs).map Prod.snd = gs.flatten := by
  induction gs generalizing i with
  | nil => rfl
  | cons g gs ih =>
    have ih' := ih (i + 1)
    rw [placedInGroups] at ih'
    rw [placedInGroups, List.zipIdx_cons, List.flatMap_cons, List.map_append, placedFrom_nodes,
      ih', List.flatten_cons]

theorem placed_nodes (place : Location) (n : Node) :
    (n.placed place).map Prod.snd = n.children := by
  cases n with
  | value => rfl
  | items => exact placedInGroups_nodes _ _ _
  | itemsAll => exact placedInGroups_nodes _ _ _
  | mergeArrays => rfl
  | _ => exact placedFrom_nodes _ _ _

/-- Every node right below has a place. -/
theorem exists_place {n m : Node} (h : m ∈ n.children) (place : Location) :
    ∃ p, (p, m) ∈ n.placed place := by
  rw [← placed_nodes place n] at h
  obtain ⟨⟨p, m'⟩, hp, rfl⟩ := List.mem_map.mp h
  exact ⟨p, hp⟩

/-- A node stands at a place in the tree of another, which has a place itself. -/
inductive StandsAt (q : Location) (m : Node) : Location → Node → Prop
  | self : StandsAt q m q m
  | child {p r : Location} {n k : Node} (hk : (r, k) ∈ n.placed p) (h : StandsAt q m r k) :
      StandsAt q m p n

/-- Every node within a tree has a place in it. -/
theorem exists_standsAt {m n : Node} (h : m.Within n) (place : Location) :
    ∃ q, m.StandsAt q place n := by
  induction h generalizing place with
  | self => exact ⟨place, .self⟩
  | child hk _ ih =>
    obtain ⟨r, hr⟩ := exists_place hk place
    obtain ⟨q, hq⟩ := ih r
    exact ⟨q, .child hr hq⟩

end Node

/-- A node stands at a place in a document. -/
def Document.StandsAt (d : Document) (q : Location) (m : Node) : Prop :=
  ∃ c ∈ Node.placedFrom objectsPlace 0 d.objects, m.StandsAt q c.1 c.2

/-! ## 2. Findings -/

namespace Document

variable {d : Document}

theorem nodesFindings_eq (place : Location) (i : Nat) (ns : List Node) :
    d.nodesFindings place i ns =
      (Node.placedFrom place i ns).flatMap fun c => d.nodeFindings c.1 c.2 := by
  induction ns generalizing i with
  | nil => rw [nodesFindings]; rfl
  | cons n ns ih =>
    rw [nodesFindings, ih]
    rfl

theorem groupsFindings_eq (place : Location) (i : Nat) (gs : List (List Node)) :
    d.groupsFindings place i gs =
      (Node.placedInGroups place i gs).flatMap fun c => d.nodeFindings c.1 c.2 := by
  induction gs generalizing i with
  | nil => rw [groupsFindings]; rfl
  | cons g gs ih =>
    rw [groupsFindings, ih, nodesFindings_eq, Node.placedInGroups, Node.placedInGroups,
      List.zipIdx_cons, List.flatMap_cons, List.flatMap_append]

/-- **A node comes before the nodes below it**, whatever its kind. -/
theorem nodeFindings_eq (place : Location) (n : Node) :
    d.nodeFindings place n =
      d.ownFindings place n ++ (n.placed place).flatMap fun c => d.nodeFindings c.1 c.2 := by
  cases n with
  | value => rw [nodeFindings]; exact (List.append_nil _).symm
  | items => rw [nodeFindings, groupsFindings_eq]; rfl
  | itemsAll => rw [nodeFindings, groupsFindings_eq]; rfl
  | mergeArrays => rw [nodeFindings]; exact (List.append_nil _).symm
  | _ => rw [nodeFindings, nodesFindings_eq]; rfl

/-- What is found of a tree is what is found of the nodes in it, each at its own place. -/
theorem mem_nodeFindings_iff {n : Node} {place : Location} {f : Finding} :
    f ∈ d.nodeFindings place n ↔ ∃ q m, Node.StandsAt q m place n ∧ f ∈ d.ownFindings q m := by
  constructor
  · intro h
    induction n using Node.induct_children generalizing place with
    | step n ih =>
      rw [nodeFindings_eq] at h
      rcases List.mem_append.mp h with h | h
      · exact ⟨place, n, .self, h⟩
      · obtain ⟨⟨r, k⟩, hr, h⟩ := List.mem_flatMap.mp h
        have hk : k ∈ n.children := by
          rw [← Node.placed_nodes place n]
          exact List.mem_map.mpr ⟨_, hr, rfl⟩
        obtain ⟨q, m, hm, hf⟩ := ih k hk h
        exact ⟨q, m, .child hr hm, hf⟩
  · rintro ⟨q, m, hm, hf⟩
    induction hm with
    | self =>
      rw [nodeFindings_eq]
      exact List.mem_append_left _ hf
    | child hk _ ih =>
      rw [nodeFindings_eq]
      exact List.mem_append_right _ (List.mem_flatMap.mpr ⟨_, hk, ih⟩)

/-- What is found of a document is what is found of its definitions, and of the nodes in it. -/
theorem mem_findings_iff {f : Finding} :
    f ∈ d.findings ↔
      f ∈ d.definitionFindings ∨ ∃ q m, d.StandsAt q m ∧ f ∈ d.ownFindings q m := by
  rw [findings, List.mem_append, nodesFindings_eq, List.mem_flatMap]
  simp only [mem_nodeFindings_iff, StandsAt]
  refine or_congr_right ⟨?_, ?_⟩
  · rintro ⟨c, hc, q, m, hm, hf⟩
    exact ⟨q, m, ⟨c, hc, hm⟩, hf⟩
  · rintro ⟨q, m, ⟨c, hc, hm⟩, hf⟩
    exact ⟨c, hc, q, m, hm, hf⟩

end Document

end Reshape
