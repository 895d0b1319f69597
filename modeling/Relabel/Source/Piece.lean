import Relabel.Syntax.Query

/-!
# Pieces of a program

What is read of a program is put together from pieces. A property that stands for a name is printed
by its value alone; if the name changes, it is written out with its key. A piece carries the proof
that this can be done with every such property in it, whatever was read as the key. A term is a
piece that is no statement. Nodes are numbered only when the program has been read as a whole.
-/

namespace Relabel

namespace Node

/-- What may stand in an expression or a pattern. -/
def isTerm (n : Node) : Bool :=
  !n.kind.any Kind.isStatement

/-- A property that is no method and holds a key and a value, neither of them a statement, and
nothing else. -/
structure IsPair (n key value : Node) : Prop where
  kind : n.kind = some .property
  isMethod : n.head.isMethod = false
  lists : n.head.lists = []
  branches : n.branches = [(.key, some key), (.value, some value)]
  key : key.isTerm = true
  value : value.isTerm = true

/-- Every shorthand property in a tree has a key and a value. -/
inductive Whole : Node → Prop
  | mk {n : Node} (pair : n.head.shorthand = true → ∃ key value, n.IsPair key value)
      (part : ∀ field child, (field, some child) ∈ n.branches → Whole child) : Whole n

namespace Whole

variable {n : Node}

theorem pair (h : n.Whole) (hshorthand : n.head.shorthand = true) :
    ∃ key value, n.IsPair key value := by
  obtain ⟨hpair, -⟩ := h
  exact hpair hshorthand

theorem part (h : n.Whole) {field : Field} {child : Node}
    (hchild : (field, some child) ∈ n.branches) : child.Whole := by
  obtain ⟨-, hpart⟩ := h
  exact hpart field child hchild

/-- Only properties are shorthand. -/
theorem shorthand_eq_false (h : n.Whole) (hkind : n.kind ≠ some .property) :
    n.head.shorthand = false := by
  cases hshorthand : n.head.shorthand with
  | false => rfl
  | true =>
    obtain ⟨_, _, hpair⟩ := h.pair hshorthand
    exact absurd hpair.kind hkind

end Whole

end Node

namespace Source

/-- A part of a program, as it is read. -/
structure Piece where
  node : Node
  whole : node.Whole

/-- A part of a program that is no statement. -/
structure Term extends Piece where
  isTerm : node.isTerm = true

instance : Coe Term Piece := ⟨Term.toPiece⟩

/-- The branches of a node that is put together. -/
abbrev Branches := List (Field × Option Piece)

def one (field : Field) (p : Piece) : Branches := [(field, some p)]

def maybe (field : Field) (p : Option Piece) : Branches :=
  match p with
  | some p => one field p
  | none => []

def many (field : Field) (ps : List Piece) : Branches := ps.map fun p ↦ (field, some p)

def manyTerms (field : Field) (terms : List Term) : Branches :=
  terms.map fun t ↦ (field, some t.toPiece)

namespace Branches

def nodes (branches : Branches) : List (Field × Option Node) :=
  branches.map fun branch ↦ (branch.1, branch.2.map Piece.node)

theorem whole_of_mem_nodes {branches : Branches} {field : Field} {child : Node}
    (h : (field, some child) ∈ branches.nodes) : child.Whole := by
  obtain ⟨⟨place, part⟩, -, hbranch⟩ := List.mem_map.mp h
  obtain ⟨-, hpart⟩ := Prod.mk.inj hbranch
  obtain ⟨p, -, rfl⟩ := Option.map_eq_some_iff.mp hpart
  exact p.whole

end Branches

namespace Piece

/-- A node that is not a shorthand property, put together from pieces. -/
def make (kind : Kind) (head : Head) (branches : Branches) : Piece where
  node := .mk { head with kind := some kind, shorthand := false } branches.nodes
  whole := .mk (fun hshorthand ↦ absurd hshorthand Bool.false_ne_true)
    fun _ _ hchild ↦ Branches.whole_of_mem_nodes hchild

/-- What stands under a label of a piece. -/
def items (p : Piece) (field : Field) : List (Option Piece) :=
  p.node.branches.attach.filterMap fun
    | ⟨(place, some child), hchild⟩ =>
      if place = field then some (some ⟨child, p.whole.part hchild⟩) else none
    | ⟨(place, none), _⟩ => if place = field then some none else none

end Piece

/-- A term made of a head and of pieces. -/
def Term.make (kind : Kind) (head : Head) (branches : Branches)
    (hkind : kind.isStatement = false := by exact Eq.refl false) : Term where
  toPiece := .make kind head branches
  isTerm := by
    change (!kind.isStatement) = true
    rw [hkind]
    rfl

/-- A property that stands for a name. -/
def Term.shorthand (head : Head) (key value : Term) : Term where
  node := .mk { head with
      kind := some .property, isMethod := false, shorthand := true, lists := [] }
    (Branches.nodes (one .key key ++ one .value value))
  whole := .mk (fun _ ↦ ⟨key.node, value.node, rfl, rfl, rfl, rfl, key.isTerm, value.isTerm⟩)
    fun _ _ hchild ↦ Branches.whole_of_mem_nodes hchild
  isTerm := rfl

end Source

end Relabel
