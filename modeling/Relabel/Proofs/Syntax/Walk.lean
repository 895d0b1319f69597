import Mathlib.Data.List.Basic
import Relabel.Proofs.Syntax.Preorder
import Relabel.Proofs.Syntax.Shape

/-!
# What a walk visits

A walk that skips nothing visits the root and then the child of every edge, in reading order, and
reports the node that holds it. It reaches the end if all nodes carry a tag.
-/

namespace Relabel

/-- The visit of the child of an edge. -/
def Edge.visit (e : Edge) : Node.Visit :=
  ⟨e.child, some e.parent⟩

namespace Node

theorem isSkipped_nil (n : Node) : n.isSkipped [] = false := by
  unfold isSkipped
  cases n.kind <;> rfl

/-- Without a skipped kind the pre-order follows the edges. -/
theorem preorder_nil (n : Node) (parent : Option Node) :
    n.preorder [] parent = ⟨n, parent⟩ :: n.edges.map Edge.visit := by
  induction n using Node.induction generalizing parent with
  | step n ih =>
    rw [preorder_eq, isSkipped_nil, Bool.and_false, if_neg Bool.false_ne_true, edges_eq,
      List.map_flatMap]
    congr 1
    refine List.flatMap_congr fun c hc ↦ ?_
    rw [ih c.1 c.2 (mem_children_iff.mp hc)]
    rfl

/-- If all nodes carry a tag, a walk visits all that is listed, whatever it skips. -/
theorem walk_eq_preorder {skip : List Kind} {root : Node}
    (htyped : ∀ m ∈ root.nodes, m.isTyped = true) :
    root.walk skip = ⟨root.preorder skip none, none⟩ := by
  rw [walk_eq_along, Walk.along_of_forall_typed]
  exact fun visit hvisit ↦ htyped visit.node (mem_nodes_of_mem_preorder hvisit)

theorem fault_walk {skip : List Kind} {root : Node}
    (htyped : ∀ m ∈ root.nodes, m.isTyped = true) : (root.walk skip).fault = none := by
  rw [walk_eq_preorder htyped]

theorem walk_eq {tree : Node} (htyped : ∀ m ∈ tree.nodes, m.isTyped = true) :
    tree.walk [] = ⟨⟨tree, none⟩ :: tree.edges.map Edge.visit, none⟩ := by
  rw [walk_eq_preorder htyped, preorder_nil]

theorem WellFormed.walk_eq {tree : Node} (h : tree.WellFormed) :
    tree.walk [] = ⟨⟨tree, none⟩ :: tree.edges.map Edge.visit, none⟩ :=
  Node.walk_eq h.isTyped

end Node

end Relabel
