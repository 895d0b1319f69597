import Relabel.Data.Table
import Relabel.Syntax.Node

/-!
# Edits of a tree

The only changes made to a program: identifiers are respelled, and shorthand properties are written
out as key and value. Edits are kept beside the tree, by the identity of the nodes they concern, and
a node is always seen through the edits made so far. When a property is written out whose key and
value are one node, a new identifier takes the place of the key, so that the key keeps its spelling
when the value is respelled.
-/

namespace Relabel

structure Edits where
  /-- The new spellings of identifiers. -/
  spellings : Table NodeId String := {}
  /-- The properties written out, with the spelling of the key put in, if one was. -/
  writtenOut : Table NodeId (Option String) := {}
deriving Repr, DecidableEq, Inhabited

namespace Edits

def spelling? (e : Edits) (head : Head) : Option String :=
  (e.spellings.get? head.id).or head.name

def applyHead (e : Edits) (head : Head) : Head :=
  { head with
    name := e.spelling? head
    shorthand := head.shorthand && !e.writtenOut.contains head.id }

/-- The identifier that takes the place of a property's key. -/
def newKey (e : Edits) (property : NodeId) (name : String) : Node :=
  .mk (e.applyHead { id := ⟨property.index, true⟩, kind := some .identifier, name := some name }) []

/-- The branches of a node with the key of a written-out property put in. -/
def withKey (e : Edits) (id : NodeId) (branches : List (Field × Option Node)) :
    List (Field × Option Node) :=
  match e.writtenOut.get? id with
  | some (some name) => branches.map fun branch ↦
      if branch.1 = .key ∧ branch.2.isSome then (.key, some (e.newKey id name)) else branch
  | _ => branches

/-- A node as the edits leave it; its children are still to be looked at. -/
def look (e : Edits) (n : Node) : Node :=
  .mk (e.applyHead n.head) (e.withKey n.id n.branches)

/-- A whole tree as the edits leave it. -/
def apply (e : Edits) : Node → Node :=
  Node.fold fun n results ↦ .mk (e.applyHead n.head) (e.withKey n.id results)

/-- Whether a property uses one node as key and as value, or as key and as the target of a value
with a default. -/
def sharesKey (property : Node) : Bool :=
  match property.child? .key, property.child? .value with
  | some key, some value =>
    key.id == value.id ||
      (value.hasKind .assignmentPattern && (value.child? .left).any (·.id == key.id))
  | _, _ => false

/-- Writes a property out, so that its key survives a respelling of its value. -/
def writeOut (e : Edits) (property : Node) (name : String) : Edits :=
  if e.writtenOut.contains property.id then e
  else { e with
    writtenOut := e.writtenOut.set property.id (if sharesKey property then some name else none) }

def respell (e : Edits) (id : NodeId) (name : String) : Edits :=
  { e with spellings := e.spellings.set id name }

/-- Putting in a new key does not make a node larger. -/
theorem total_size_children_look_le (e : Edits) (n : Node) :
    total ((e.look n).children.map (·.2.size)) ≤ total (n.children.map (·.2.size)) := by
  have leaf : ∀ id name, (e.newKey id name).size = 1 := fun id name ↦ by
    rw [Node.size_eq]
    simp [newKey, Node.children, Node.branches]
  obtain ⟨head, branches⟩ := n
  simp only [look, withKey, Node.children, Node.branches, Node.head, Node.id]
  split
  · rename_i name _
    induction branches with
    | nil => simp
    | cons b rest ih =>
      obtain ⟨field, child⟩ := b
      cases child with
      | none => simpa using ih
      | some child =>
        have positive := child.size_pos
        by_cases h : field = .key
        · simp_all; omega
        · simp_all
  · exact Nat.le_refl _

end Edits

end Relabel
