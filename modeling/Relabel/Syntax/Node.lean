import Relabel.Data.Total
import Relabel.Number.Binary64
import Relabel.Syntax.Kind
import Relabel.Syntax.Span

/-!
# Syntax trees

A node has a head, which holds everything about it but its children, and a list of branches in the
order in which the tree is read. A branch has a label and holds a child, or nothing where a list of
children has a gap; a list of children is a run of branches with one label. Nodes have an identity,
so that two branches can hold the same node: a shorthand property may use one node as key and
value, and renaming an identifier renames it wherever it is held.
-/

namespace Relabel

/-- The identity of a node: its number, or the key that is put in when the property of that number
is written out. -/
structure NodeId where
  index : Nat
  writtenKey : Bool := false
deriving Repr, DecidableEq, Inhabited

/-- The value of a literal. -/
inductive Literal where
  | null
  | boolean (b : Bool)
  | number (n : Number)
  | text (s : String)
  /-- A whole number of any size, by its digits. -/
  | big (digits : String)
  | regex (pattern flags : String)
deriving Repr, DecidableEq, Inhabited

/-- What a node says about itself. Properties that its kind does not use have their default. -/
structure Head where
  id : NodeId
  /-- Absent for a node that carries no tag. -/
  kind : Option Kind := none
  span : Option Span := none
  /-- The spelling of an identifier. -/
  name : Option String := none
  /-- The value of a literal. -/
  value : Option Literal := none
  /-- The source text of a template element. -/
  raw : Option String := none
  operator : Option String := none
  /-- The variety of a declaration, property or method: `var`, `init`, `get`, `constructor`, … -/
  variety : Option String := none
  directive : Option String := none
  computed : Bool := false
  shorthand : Bool := false
  isMethod : Bool := false
  generator : Bool := false
  isAsync : Bool := false
  isStatic : Bool := false
  delegate : Bool := false
  /-- The member or call is taken only if there is something to take it of. -/
  isOptional : Bool := false
  /-- The loop waits for each of its values. -/
  isWaiting : Bool := false
  /-- The operator stands before its operand. -/
  before : Bool := false
  /-- The body of a function is an expression. -/
  concise : Bool := false
  /-- The labels under which the node holds a list of children, which may be empty. -/
  lists : List Field := []
deriving Repr, DecidableEq, Inhabited

inductive Node where
  | mk (head : Head) (branches : List (Field × Option Node))
deriving Repr, Inhabited

namespace Node

def head : Node → Head
  | mk head _ => head

def branches : Node → List (Field × Option Node)
  | mk _ branches => branches

def id (n : Node) : NodeId := n.head.id

def kind (n : Node) : Option Kind := n.head.kind

def hasKind (n : Node) (kind : Kind) : Bool := n.kind == some kind

/-! Every function that descends through a whole tree is a fold: it is told, for each node, what
it gave on the children. -/

section Fold

variable {α : Type} (step : Node → List (Field × Option α) → α)

mutual

def fold : Node → α
  | mk head branches => step (mk head branches) (foldBranches branches)

def foldBranches : List (Field × Option Node) → List (Field × Option α)
  | [] => []
  | (field, some child) :: rest => (field, some (fold child)) :: foldBranches rest
  | (field, none) :: rest => (field, none) :: foldBranches rest

end

theorem foldBranches_eq_map (branches : List (Field × Option Node)) :
    foldBranches step branches = branches.map fun b ↦ (b.1, b.2.map (fold step)) := by
  induction branches with
  | nil => rfl
  | cons b rest ih =>
    obtain ⟨field, child⟩ := b
    cases child <;> simp [foldBranches, ih]

theorem fold_eq (n : Node) :
    fold step n = step n (n.branches.map fun b ↦ (b.1, b.2.map (fold step))) := by
  obtain ⟨head, branches⟩ := n
  simp only [fold, foldBranches_eq_map, Node.branches]

end Fold

/-- The children with their labels, in reading order; gaps are left out. -/
def children (n : Node) : List (Field × Node) :=
  n.branches.filterMap fun branch ↦ branch.2.map (branch.1, ·)

/-- What stands under a label: the items of a list of children, gaps included. -/
def items (n : Node) (field : Field) : List (Option Node) :=
  n.branches.filterMap fun branch ↦ if branch.1 = field then some branch.2 else none

/-- The child under a label. -/
def child? (n : Node) (field : Field) : Option Node :=
  (n.items field).head?.join

/-- The number of nodes in a tree. -/
def size : Node → Nat :=
  fold fun _ sizes ↦ 1 + total (sizes.filterMap Prod.snd)

theorem size_eq (n : Node) : n.size = 1 + total (n.children.map (·.2.size)) := by
  have shape : ∀ branches : List (Field × Option Node),
      (branches.map fun b ↦ (b.1, b.2.map size)).filterMap Prod.snd =
        (branches.filterMap fun b ↦ b.2.map (b.1, ·)).map (·.2.size) := by
    intro branches
    induction branches with
    | nil => rfl
    | cons b rest ih =>
      obtain ⟨field, child⟩ := b
      cases child <;> simp_all
  rw [size, fold_eq, children]
  exact congrArg (fun sizes ↦ 1 + total sizes) (shape n.branches)

/-- The children of a node are smaller than the node, even taken together. -/
theorem total_size_children_lt (n : Node) : total (n.children.map (·.2.size)) < n.size := by
  rw [size_eq]
  omega

theorem size_pos (n : Node) : 0 < n.size := by
  rw [size_eq]
  omega

/-- A step from a node to what it holds: a label, and the place in a list. -/
structure Step where
  field : Field
  place : Nat := 0
deriving Repr, DecidableEq

/-- The node at an address, if there is one. -/
def at? (n : Node) : List Step → Option Node
  | [] => some n
  | step :: rest =>
    match ((n.items step.field)[step.place]?).join with
    | some child => child.at? rest
    | none => none

/-- The line on which a node starts, and zero for a node without a place in a text. -/
def line (n : Node) : Int :=
  match n.head.span with
  | some span => span.first.row
  | none => 0

end Node

end Relabel
