import Relabel.Proofs.Syntax.Subtree
import Relabel.Syntax.Record
import Relabel.Syntax.Walk

/-!
# The pre-order of a tree

The pre-order lists a node before what it holds, and its children one after the other, each with
all that it holds. Below a node of a skipped kind it lists nothing, except below the root. It is
found by descending through the tree; a walk works from a stack instead. Main statement: a walk
visits the nodes of the pre-order, up to the first without a tag, at which it ends with a fault. The
loop that takes one node after the other off the end of a stack, and puts its children there from
the last to the first, makes this walk in one turn for each visit and a last one.
-/

namespace Relabel.Node

mutual

/-- The nodes of a tree in pre-order, each with the node that holds it. Nothing holds the root. -/
def preorder (skip : List Kind) (parent : Option Node) : Node → List Visit
  | mk head branches =>
    ⟨mk head branches, parent⟩ ::
      if parent.isSome && (mk head branches).isSkipped skip then []
      else preorderAlong skip (mk head branches) branches

def preorderAlong (skip : List Kind) (parent : Node) : List (Field × Option Node) → List Visit
  | [] => []
  | (_, some child) :: rest =>
    preorder skip (some parent) child ++ preorderAlong skip parent rest
  | (_, none) :: rest => preorderAlong skip parent rest

end

variable {skip : List Kind} {parent : Option Node}

theorem preorder_eq (n : Node) :
    n.preorder skip parent = ⟨n, parent⟩ ::
      if parent.isSome && n.isSkipped skip then []
      else n.children.flatMap fun c ↦ c.2.preorder skip (some n) := by
  have halong (holder : Node) (branches : List (Field × Option Node)) :
      preorderAlong skip holder branches =
        (branches.filterMap fun b ↦ b.2.map (b.1, ·)).flatMap
          fun c ↦ c.2.preorder skip (some holder) := by
    induction branches with
    | nil => rfl
    | cons branch rest ih =>
      rcases branch with ⟨field, _ | child⟩
      · simpa [preorderAlong] using ih
      · simp [preorderAlong, ih]
  rcases n with ⟨head, branches⟩
  rw [preorder, halong]
  rfl

/-- The pre-order of a node that is read from a record follows the labels of the record, and the
items of its lists. -/
theorem preorder_ofRecord (head : Head) (record : List (String × Slot)) :
    (ofRecord head record).preorder skip parent = ⟨ofRecord head record, parent⟩ ::
      if parent.isSome && (ofRecord head record).isSkipped skip then []
      else (record.filter fun entry ↦ !Field.asides.contains entry.1).flatMap fun entry ↦
        entry.2.nodes.flatMap fun n ↦ n.preorder skip (some (ofRecord head record)) := by
  rw [preorder_eq, children_ofRecord, List.flatMap_assoc]
  simp only [List.flatMap_map]

/-- The pre-order lists nodes of the tree only. -/
theorem mem_nodes_of_mem_preorder {n : Node} {visit : Visit}
    (hvisit : visit ∈ n.preorder skip parent) : visit.node ∈ n.nodes := by
  induction n using Node.induction generalizing parent with
  | step n ih =>
    rw [preorder_eq, List.mem_cons] at hvisit
    rcases hvisit with rfl | hbelow
    · exact n.mem_nodes_self
    · split at hbelow
      · exact absurd hbelow List.not_mem_nil
      · obtain ⟨⟨field, child⟩, hc, hmem⟩ := List.mem_flatMap.mp hbelow
        have hchild := mem_children_iff.mp hc
        exact mem_nodes_iff.mpr (.inr ⟨field, child, hchild, ih field child hchild hmem⟩)

theorem length_flatMap_le {α β : Type} {parts : List α} {f : α → List β} {weight : α → Nat}
    (h : ∀ part ∈ parts, (f part).length ≤ weight part) :
    (parts.flatMap f).length ≤ total (parts.map weight) := by
  induction parts with
  | nil => exact Nat.le_refl 0
  | cons part rest ih =>
    obtain ⟨hpart, hrest⟩ := List.forall_mem_cons.mp h
    rw [List.flatMap_cons, List.length_append, List.map_cons, total_cons]
    exact Nat.add_le_add hpart (ih hrest)

theorem length_preorder_le (n : Node) : (n.preorder skip parent).length ≤ n.size := by
  induction n using Node.induction generalizing parent with
  | step n ih =>
    rw [preorder_eq, size_eq, List.length_cons, Nat.add_comm 1]
    refine Nat.add_le_add_right ?_ 1
    split
    · exact Nat.zero_le _
    · exact length_flatMap_le fun c hc ↦ ih c.1 c.2 (mem_children_iff.mp hc)

namespace Walk

/-- The walk that makes the visits of a list, up to the first node without a tag. -/
def along (listed : List Visit) : Walk where
  visits := listed.takeWhile fun visit ↦ visit.node.isTyped
  fault := (listed.find? fun visit ↦ !visit.node.isTyped).map fun visit ↦
    .untyped (visit.parent.bind kind)

variable {visit : Visit} {rest : List Visit}

theorem along_cons_of_typed (h : visit.node.isTyped = true) :
    along (visit :: rest) = cons visit (along rest) := by
  simp [along, cons, h]

theorem along_cons_of_untyped (h : visit.node.isTyped = false) :
    along (visit :: rest) = ⟨[], some (.untyped (visit.parent.bind kind))⟩ := by
  simp [along, h]

theorem along_of_forall_typed {listed : List Visit}
    (h : ∀ visit ∈ listed, visit.node.isTyped = true) : along listed = ⟨listed, none⟩ := by
  induction listed with
  | nil => rfl
  | cons visit rest ih =>
    obtain ⟨hvisit, hrest⟩ := List.forall_mem_cons.mp h
    rw [along_cons_of_typed hvisit, ih hrest]
    rfl

theorem length_visits_along_le (listed : List Visit) :
    (along listed).visits.length ≤ listed.length :=
  (List.takeWhile_sublist _).length_le

end Walk

/-- What is on the stack of a walk is visited from the top down, each node with what it holds. -/
theorem walkStack_eq_along (skip : List Kind) (stack : List (Node × Node)) :
    walkStack skip stack =
      Walk.along (stack.flatMap fun entry ↦ entry.1.preorder skip (some entry.2)) := by
  fun_induction walkStack skip stack with
  | case1 => rfl
  | case2 n parent rest hn next ih =>
    have hnext : (next.flatMap fun entry ↦ entry.1.preorder skip (some entry.2)) =
        if n.isSkipped skip then []
        else n.children.flatMap fun c ↦ c.2.preorder skip (some n) := by
      by_cases hskipped : n.isSkipped skip = true
      · simp [next, hskipped]
      · simp [next, hskipped, descents, List.flatMap_map]
    rw [ih, List.flatMap_append, hnext, List.flatMap_cons, preorder_eq, List.cons_append,
      Walk.along_cons_of_typed hn]
    rfl
  | case3 n parent rest hn =>
    rw [List.flatMap_cons, preorder_eq, List.cons_append,
      Walk.along_cons_of_untyped (Bool.eq_false_iff.mpr hn)]
    rfl

theorem walk_eq_along (skip : List Kind) (root : Node) :
    root.walk skip = Walk.along (root.preorder skip none) := by
  rw [preorder_eq, walk]
  split
  case isTrue htyped =>
    rw [walkStack_eq_along, descents, List.flatMap_map, Walk.along_cons_of_typed htyped]
    rfl
  case isFalse huntyped =>
    rw [Walk.along_cons_of_untyped (Bool.eq_false_iff.mpr huntyped)]
    rfl

/-! The top of the stack is the end of the list, as the children of a node are put there from the
last to the first. -/

/-- What a turn of the loop comes to: a visit and the stack that it leaves, or the end. -/
inductive Turn where
  | visits (visit : Visit) (stack : List (Node × Option Node))
  | ends (fault : Option TreeFault)

/-- One turn of the loop. It looks at the last entry of the stack; the root is the one entry that
nothing holds. -/
def turn (skip : List Kind) (stack : List (Node × Option Node)) : Turn :=
  match stack.getLast? with
  | none => .ends none
  | some (n, parent) =>
    if n.isTyped then
      let below := if parent.isSome && n.isSkipped skip then [] else n.children
      .visits ⟨n, parent⟩ (stack.dropLast ++ below.reverse.map fun c ↦ (c.2, some n))
    else .ends (some (.untyped (parent.bind kind)))

/-- The walk that the loop makes, if it ends within a number of turns. -/
def loop (skip : List Kind) : Nat → List (Node × Option Node) → Option Walk
  | 0, _ => none
  | turns + 1, stack =>
    match turn skip stack with
    | .visits visit left => (loop skip turns left).map (Walk.cons visit)
    | .ends fault => some ⟨[], fault⟩

/-- What is listed of the entries of a stack, in the order in which the loop comes to it. -/
def ahead (skip : List Kind) (stack : List (Node × Option Node)) : List Visit :=
  stack.reverse.flatMap fun entry ↦ entry.1.preorder skip entry.2

theorem ahead_append (lower upper : List (Node × Option Node)) :
    ahead skip (lower ++ upper) = ahead skip upper ++ ahead skip lower := by
  rw [ahead, List.reverse_append, List.flatMap_append]
  rfl

theorem ahead_singleton (n : Node) : ahead skip [(n, parent)] = n.preorder skip parent := by
  rw [ahead, List.reverse_singleton, List.flatMap_singleton]

/-- Children that are put on a stack from the last to the first are ahead from first to last. -/
theorem ahead_children (n : Node) (parts : List (Field × Node)) :
    ahead skip (parts.reverse.map fun c ↦ (c.2, some n)) =
      parts.flatMap fun c ↦ c.2.preorder skip (some n) := by
  rw [ahead, ← List.map_reverse, List.reverse_reverse, List.flatMap_map]

/-- A turn makes the first of the visits ahead and leaves the others, or it ends the loop, since
nothing is ahead or the first node ahead carries no tag. -/
theorem turn_cases (skip : List Kind) (stack : List (Node × Option Node)) :
    (turn skip stack = .ends none ∧ ahead skip stack = []) ∨
      (∃ visit left, turn skip stack = .visits visit left ∧ visit.node.isTyped = true ∧
        ahead skip stack = visit :: ahead skip left) ∨
      ∃ visit rest, turn skip stack = .ends (some (.untyped (visit.parent.bind kind))) ∧
        visit.node.isTyped = false ∧ ahead skip stack = visit :: rest := by
  -- The stack is taken apart at its end, where the turn works.
  rcases List.eq_nil_or_concat stack with rfl | ⟨lower, ⟨n, parent⟩, rfl⟩
  · exact .inl ⟨rfl, rfl⟩
  · rw [List.concat_eq_append, ahead_append, ahead_singleton, preorder_eq, List.cons_append]
    by_cases htyped : n.isTyped = true
    · let below := if parent.isSome && n.isSkipped skip then [] else n.children
      have hturn : turn skip (lower ++ [(n, parent)]) =
          .visits ⟨n, parent⟩ (lower ++ below.reverse.map fun c ↦ (c.2, some n)) := by
        simp [turn, htyped, below]
      refine .inr (.inl ⟨_, _, hturn, htyped, ?_⟩)
      rw [ahead_append, ahead_children]
      by_cases hskipped : (parent.isSome && n.isSkipped skip) = true
      · simp [below, hskipped]
      · simp [below, hskipped]
    · have hturn : turn skip (lower ++ [(n, parent)]) =
          .ends (some (.untyped (parent.bind kind))) := by
        simp [turn, htyped]
      exact .inr (.inr ⟨⟨n, parent⟩, _, hturn, Bool.eq_false_iff.mpr htyped, rfl⟩)

/-- The loop makes the walk along what is ahead, in one turn for each visit and a last one. -/
theorem loop_eq (skip : List Kind) (turns : Nat) (stack : List (Node × Option Node)) :
    loop skip turns stack =
      if (Walk.along (ahead skip stack)).visits.length < turns then
        some (Walk.along (ahead skip stack))
      else none := by
  induction turns generalizing stack with
  | zero => rfl
  | succ turns ih =>
    rcases turn_cases skip stack with ⟨hturn, hahead⟩ | ⟨visit, left, hturn, htyped, hahead⟩ |
      ⟨visit, rest, hturn, huntyped, hahead⟩
    · rw [loop, hturn, hahead]
      rfl
    · have hlength : (Walk.cons visit (Walk.along (ahead skip left))).visits.length =
          (Walk.along (ahead skip left)).visits.length + 1 := rfl
      rw [loop, hturn, hahead, Walk.along_cons_of_typed htyped, hlength]
      simp only [ih, Nat.add_lt_add_iff_right]
      split
      case isTrue => rfl
      case isFalse => rfl
    · rw [loop, hturn, hahead, Walk.along_cons_of_untyped huntyped]
      rfl

/-- The loop ends with the walk, after at most one turn for each node of the tree and a last one.
The walk visits what the pre-order lists before the first node without a tag. Such a node ends it
with a fault that names the kind of the node that holds it, and nothing else does. -/
theorem walk_lists_preorder (skip : List Kind) (root : Node) :
    loop skip (root.size + 1) [(root, none)] = some (root.walk skip) ∧
      (root.walk skip).visits =
        (root.preorder skip none).takeWhile (fun visit ↦ visit.node.isTyped) ∧
      (root.walk skip).fault =
        ((root.preorder skip none).find? fun visit ↦ !visit.node.isTyped).map fun visit ↦
          .untyped (visit.parent.bind kind) := by
  have hwalk := walk_eq_along skip root
  refine ⟨?_, congrArg Walk.visits hwalk, congrArg Walk.fault hwalk⟩
  have hlength : (root.walk skip).visits.length < root.size + 1 := by
    calc (root.walk skip).visits.length
        = (Walk.along (root.preorder skip none)).visits.length := by rw [hwalk]
      _ ≤ (root.preorder skip none).length := Walk.length_visits_along_le _
      _ ≤ root.size := root.length_preorder_le
      _ < root.size + 1 := Nat.lt_succ_self _
  rw [loop_eq, ahead_singleton, ← hwalk, if_pos hlength]

/-- The root is listed with what it holds, a function in it without that. -/
example :
    let block : Node := .mk { id := ⟨0, false⟩, kind := some .blockStatement } []
    let function (index : Nat) (body : Node) : Node :=
      .mk { id := ⟨index, false⟩, kind := some .functionExpression } [(.body, some body)]
    ((function 2 (function 1 block)).preorder [.functionExpression] none).map (·.node.id.index) =
      [2, 1] := by
  decide

end Relabel.Node
