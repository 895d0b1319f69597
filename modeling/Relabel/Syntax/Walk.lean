import Relabel.Syntax.Node
import Relabel.Text.Quoted

/-!
# Walking a tree

A walk lists the nodes of a tree in reading order, each before its children and with its parent.
It works from a stack of the nodes still to be visited. Below a node of a skipped kind it does not
descend, except below the root. It stops at the first node that carries no tag.
-/

namespace Relabel

/-- The tag of a node, as messages show it. -/
def kindText : Option Kind → String
  | some kind => kind.tag
  | none => "None"

/-- What can be wrong with a tree. -/
inductive TreeFault where
  /-- A node carries no tag; `under` is its parent's kind. -/
  | untyped (under : Option Kind)
  | notProgram (kind : Option Kind)
  /-- A node of this kind lies outside the analysed tree. -/
  | noScope (kind : Option Kind)
deriving Repr, DecidableEq

namespace TreeFault

def message : TreeFault → String
  | untyped under => "node without type under " ++ kindText under
  | notProgram (some kind) => "expected a Program node, got " ++ Text.quote kind.tag
  | notProgram none => "expected a Program node, got None"
  | noScope kind => "no scope recorded for " ++ kindText kind ++ " node"

end TreeFault

namespace Node

/-- An empty tag counts as none. -/
def isTyped (n : Node) : Bool :=
  n.kind != none && n.kind != some (.other "")

structure Visit where
  node : Node
  parent : Option Node
deriving Inhabited

/-- The nodes visited, and what ended the walk early. -/
structure Walk where
  visits : List Visit
  fault : Option TreeFault
deriving Inhabited

namespace Walk

def cons (visit : Visit) (walk : Walk) : Walk :=
  { walk with visits := visit :: walk.visits }

end Walk

/-- The children to be visited below a node, paired with it. -/
def descents (n : Node) : List (Node × Node) :=
  n.children.map fun child ↦ (child.2, n)

theorem total_size_descents_lt (n : Node) : total (n.descents.map (·.1.size)) < n.size := by
  have h := n.total_size_children_lt
  simpa [descents, Function.comp_def] using h

def isSkipped (skip : List Kind) (n : Node) : Bool :=
  n.kind.any skip.contains

/-- Walks from a stack of nodes, each with its parent. -/
def walkStack (skip : List Kind) : List (Node × Node) → Walk
  | [] => ⟨[], none⟩
  | (n, parent) :: rest =>
    if n.isTyped then
      let next := if n.isSkipped skip then [] else n.descents
      Walk.cons ⟨n, some parent⟩ (walkStack skip (next ++ rest))
    else ⟨[], some (.untyped parent.kind)⟩
termination_by stack => total (stack.map (·.1.size))
decreasing_by
  have smaller := n.total_size_descents_lt
  have positive := n.size_pos
  simp only [List.map_append, total_append, List.map_cons, total_cons]
  split <;> simp <;> omega

def walk (skip : List Kind) (root : Node) : Walk :=
  if root.isTyped then Walk.cons ⟨root, none⟩ (walkStack skip root.descents)
  else ⟨[], some (.untyped none)⟩

/-- The names of all identifiers of a tree, in reading order. -/
def identifierNames (root : Node) : Except TreeFault (List String) :=
  let walk := root.walk []
  match walk.fault with
  | some fault => .error fault
  | none => .ok (walk.visits.filterMap fun visit ↦
      if visit.node.hasKind .identifier then visit.node.head.name else none)

end Node

end Relabel
