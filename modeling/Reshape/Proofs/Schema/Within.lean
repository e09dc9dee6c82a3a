/-
# Nodes within nodes

`m.Within n` says that `m` stands anywhere in the tree of `n`.  What holds of every node in a
tree is shown from the nodes right below (`Node.induct_children`), which is one case for all
kinds of nodes.
-/
import Reshape.Schema

namespace Reshape.Node

/-- A node stands in the tree of another: it is that node, or it stands in the tree of one
right below. -/
inductive Within (m : Node) : Node → Prop
  | self : Within m m
  | child {k n : Node} (hk : k ∈ n.children) (h : Within m k) : Within m n

/-- Induction over nodes by the nodes right below them. -/
theorem induct_children {motive : Node → Prop}
    (step : ∀ n, (∀ m ∈ n.children, motive m) → motive n) (n : Node) : motive n := by
  have hgroups : ∀ {groups : List (List Node)}, (∀ g ∈ groups, ∀ n ∈ g, motive n) →
      ∀ n ∈ groups.flatten, motive n := by
    intro groups ih n hn
    obtain ⟨g, hg, hng⟩ := List.mem_flatten.mp hn
    exact ih g hg n hng
  induction n with
  | value info path => exact step _ (by simp [children])
  | attributes info path fields ih => exact step _ ih
  | nested info fields ih => exact step _ ih
  | items info path groups ih => exact step _ (hgroups ih)
  | itemsAll info path groups exclude ih => exact step _ (hgroups ih)
  | hash info path fields ih => exact step _ ih
  | array info elements ih => exact step _ ih
  | hashArray info path fields ih => exact step _ ih
  | mergeArrays info paths => exact step _ (by simp [children])

/-- What holds of a node and in the trees of the nodes right below it holds in its tree. -/
theorem forall_within {P : Node → Prop} {n : Node} (h : P n)
    (hc : ∀ k ∈ n.children, ∀ m : Node, m.Within k → P m) : ∀ m : Node, m.Within n → P m := by
  intro m hm
  cases hm with
  | self => exact h
  | child hk hm => exact hc _ hk m hm

end Reshape.Node
