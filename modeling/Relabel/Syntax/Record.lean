import Relabel.Syntax.Node

/-!
# Nodes from records

A tree may be given as records: under each of its labels a record holds a node, a list of items or
plain data. The branches of a node are the nodes of its record in the order of the labels, lists
included one item after the other. What tells the kind or the place of a node, and the comments
beside it, are no branches, whatever they look like.
-/

namespace Relabel

/-- What a record holds under a label. -/
inductive Slot where
  | node (n : Node)
  /-- A list. An item that is not a node is a gap. -/
  | list (items : List (Option Node))
  | data
deriving Inhabited

namespace Slot

def branches (field : Field) : Slot → List (Field × Option Node)
  | node n => [(field, some n)]
  | list items => items.map (field, ·)
  | data => []

/-- The nodes in a slot, in their order. -/
def nodes : Slot → List Node
  | node n => [n]
  | list items => items.filterMap id
  | data => []

def isList : Slot → Bool
  | list _ => true
  | _ => false

end Slot

/-- The labels under which a record holds no branches. -/
def Field.asides : List String :=
  ["type", "loc", "range", "leadingComments", "trailingComments", "innerComments"]

namespace Node

/-- The node of a record, with a head that says what its data mean. -/
def ofRecord (head : Head) (record : List (String × Slot)) : Node :=
  let parts := record.filter fun entry ↦ !Field.asides.contains entry.1
  let lists := (parts.filter fun entry ↦ entry.2.isList).map fun entry ↦ Field.ofText entry.1
  .mk { head with lists } (parts.flatMap fun entry ↦ entry.2.branches (Field.ofText entry.1))

/-- The children of a node are the nodes of its record. -/
theorem children_ofRecord (head : Head) (record : List (String × Slot)) :
    (ofRecord head record).children =
      (record.filter fun entry ↦ !Field.asides.contains entry.1).flatMap fun entry ↦
        entry.2.nodes.map fun n ↦ (Field.ofText entry.1, n) := by
  have hslot (field : Field) (slot : Slot) :
      ((slot.branches field).filterMap fun branch ↦ branch.2.map (branch.1, ·)) =
        slot.nodes.map (field, ·) := by
    cases slot with
    | node n => rfl
    | list items =>
      rw [Slot.branches, Slot.nodes, List.filterMap_map, List.map_filterMap]
      rfl
    | data => rfl
  simp only [ofRecord, children, branches, List.filterMap_flatMap, hslot]

end Node

end Relabel
