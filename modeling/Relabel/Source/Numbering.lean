import Relabel.Syntax.Node

/-!
# The numbers of nodes

When a program has been read, its nodes are numbered in reading order. A specifier without a second
name has one node under both of its labels, which gets one number.
-/

namespace Relabel.Source

/-- Two leaves with one place in the text are one node. -/
def isSameLeaf (m n : Node) : Bool :=
  m.head == n.head && m.branches.isEmpty && n.branches.isEmpty

/-- A specifier that has one node under both of its labels. -/
def isTwofold (n : Node) : Bool :=
  match n.kind, n.branches with
  | some .importSpecifier, [(.localName, some first), (.imported, some second)]
  | some .exportSpecifier, [(.exported, some first), (.localName, some second)] =>
    isSameLeaf first second
  | _, _ => false

mutual

/-- Numbers the nodes of a tree from a number on. -/
def number (next : Nat) : Node → Node
  | .mk head branches =>
    .mk { head with id := ⟨next, false⟩ }
      (numberBranches (isTwofold (.mk head branches)) (next + 1) branches)

/-- Numbers what stands in branches, which hold one node twice if `twofold` says so. -/
def numberBranches (twofold : Bool) (next : Nat) :
    List (Field × Option Node) → List (Field × Option Node)
  | [] => []
  | (field, some child) :: rest =>
    (field, some (number next child)) ::
      numberBranches twofold (if twofold then next else next + child.size) rest
  | (field, none) :: rest => (field, none) :: numberBranches twofold next rest

end

end Relabel.Source
