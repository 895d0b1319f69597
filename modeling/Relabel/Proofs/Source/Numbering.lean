import Mathlib.Data.List.Nodup
import Mathlib.Data.List.Pairwise
import Relabel.Proofs.Scope.Sharing
import Relabel.Source.Numbering

/-!
# Numbered trees have no shared nodes

The numbers in a tree that is numbered from `next` on lie between `next` and `next + n.size`, and
children have ranges of numbers that do not meet. So a number stands for one node, and only the one
name of a specifier is reached twice.
-/

namespace Relabel.Source

open Node (mem_nodes_iff mem_nodes_self)

theorem size_cons_some (head : Head) (field : Field) (child : Node)
    (rest : List (Field × Option Node)) :
    (Node.mk head ((field, some child) :: rest)).size =
      child.size + (Node.mk head rest).size := by
  rw [Node.size_eq, Node.size_eq (.mk head rest)]
  change 1 + total (child.size :: (Node.mk head rest).children.map (·.2.size)) = _
  rw [total_cons]
  omega

theorem size_cons_none (head : Head) (field : Field) (rest : List (Field × Option Node)) :
    (Node.mk head ((field, none) :: rest)).size = (Node.mk head rest).size := by
  rw [Node.size_eq, Node.size_eq (.mk head rest)]
  rfl

/-- A numbered child is numbered within the range of its parent. -/
theorem exists_of_mem_numberBranches (head : Head) {twofold : Bool} {next : Nat}
    {branches : List (Field × Option Node)} {field : Field} {child : Node}
    (h : (field, some child) ∈ numberBranches twofold next branches) :
    ∃ part k, (field, some part) ∈ branches ∧ child = number k part ∧ next ≤ k ∧
      k + part.size < next + (Node.mk head branches).size := by
  induction branches generalizing next with
  | nil => exact absurd h List.not_mem_nil
  | cons branch rest ih =>
    rcases branch with ⟨place, _ | first⟩
    · rcases List.mem_cons.mp h with heq | hrest
      · exact absurd (Prod.mk.inj heq).2 (by simp)
      · obtain ⟨part, k, hpart, rfl, hstart, hstop⟩ := ih hrest
        rw [size_cons_none]
        exact ⟨part, k, List.mem_cons_of_mem _ hpart, rfl, hstart, hstop⟩
    · rw [size_cons_some]
      have hsize := (Node.mk head rest).size_pos
      rcases List.mem_cons.mp h with heq | hrest
      · obtain ⟨rfl, hsame⟩ := Prod.mk.inj heq
        obtain rfl := Option.some.inj hsame
        exact ⟨first, next, List.mem_cons_self, rfl, Nat.le_refl _, by omega⟩
      · obtain ⟨part, k, hpart, rfl, hstart, hstop⟩ := ih hrest
        refine ⟨part, k, List.mem_cons_of_mem _ hpart, rfl, ?_, ?_⟩
        · split at hstart <;> omega
        · split at hstop <;> omega

theorem exists_of_mem_branches_number {next : Nat} {n : Node} {field : Field} {child : Node}
    (h : (field, some child) ∈ (number next n).branches) :
    ∃ part k, (field, some part) ∈ n.branches ∧ child = number k part ∧ next < k ∧
      k + part.size ≤ next + n.size := by
  rcases n with ⟨head, branches⟩
  obtain ⟨part, k, hpart, rfl, hstart, hstop⟩ := exists_of_mem_numberBranches head h
  exact ⟨part, k, hpart, rfl, hstart, by omega⟩

/-- The nodes of a numbered tree are the nodes of the tree, numbered. -/
theorem exists_of_mem_nodes_number {next : Nat} {n m : Node} (h : m ∈ (number next n).nodes) :
    ∃ part ∈ n.nodes, ∃ k, m = number k part ∧ next ≤ k ∧ k < next + n.size := by
  induction n using Node.induction generalizing next with
  | step n ih =>
    rcases mem_nodes_iff.mp h with rfl | ⟨field, child, hchild, hm⟩
    · exact ⟨n, n.mem_nodes_self, next, rfl, Nat.le_refl _, Nat.lt_add_of_pos_right n.size_pos⟩
    · obtain ⟨part, k, hpart, rfl, hstart, hstop⟩ := exists_of_mem_branches_number hchild
      obtain ⟨inner, hinner, i, rfl, hfirst, hlast⟩ := ih field part hpart hm
      refine ⟨inner, mem_nodes_iff.mpr (.inr ⟨field, part, hpart, hinner⟩), i, rfl, ?_, ?_⟩ <;>
        omega

theorem id_number (next : Nat) (n : Node) : (number next n).id = ⟨next, false⟩ := by
  rcases n with ⟨head, branches⟩
  rfl

theorem kind_number (next : Nat) (n : Node) : (number next n).kind = n.kind := by
  rcases n with ⟨head, branches⟩
  rfl

theorem index_of_mem_nodes_number {next : Nat} {n m : Node} (h : m ∈ (number next n).nodes) :
    next ≤ m.id.index ∧ m.id.index < next + n.size := by
  obtain ⟨part, -, k, rfl, hbounds⟩ := exists_of_mem_nodes_number h
  rw [id_number]
  exact hbounds

/-- What stands below a numbered node has greater numbers. -/
theorem lt_index_of_mem_nodes {next : Nat} {n child m : Node} {field : Field}
    (hchild : (field, some child) ∈ (number next n).branches) (hm : m ∈ child.nodes) :
    next < m.id.index := by
  obtain ⟨part, k, -, rfl, hstart, -⟩ := exists_of_mem_branches_number hchild
  exact Nat.lt_of_lt_of_le hstart (index_of_mem_nodes_number hm).1

/-- Two branches that lead to different nodes only. -/
def Apart (b b' : Field × Option Node) : Prop :=
  ∀ c ∈ b.2, ∀ c' ∈ b'.2, ∀ m ∈ c.nodes, ∀ m' ∈ c'.nodes, m.id ≠ m'.id

instance : Std.Symm Apart where
  symm _ _ h c hc c' hc' m hm m' hm' heq := h c' hc' c hc m' hm' m hm heq.symm

theorem pairwise_numberBranches (next : Nat) (branches : List (Field × Option Node)) :
    (numberBranches false next branches).Pairwise Apart := by
  induction branches generalizing next with
  | nil => exact .nil
  | cons branch rest ih =>
    rcases branch with ⟨field, _ | first⟩
    · exact .cons (fun _ _ c hc ↦ by simp at hc) (ih next)
    · refine .cons (fun b hb c hc c' hc' m hm m' hm' heq ↦ ?_) (ih _)
      obtain rfl := Option.some.inj hc
      obtain ⟨place, _ | later⟩ := b
      · simp at hc'
      obtain rfl := Option.some.inj hc'
      obtain ⟨part, k, -, rfl, hstart, -⟩ := exists_of_mem_numberBranches default hb
      have hbefore := (index_of_mem_nodes_number hm).2
      have hafter := (index_of_mem_nodes_number hm').1
      rw [heq] at hbefore
      change next + first.size ≤ k at hstart
      omega

/-- A numbered specifier with one name has one leaf under both of its labels, one of which is lent
by the grammar. -/
theorem exists_of_isTwofold {n : Node} (h : isTwofold n = true) (next : Nat) :
    ∃ leaf outer inner, leaf.branches = [] ∧
      (number next n).branches = [(outer, some leaf), (inner, some leaf)] ∧
      (n.kind = some .importSpecifier ∧ outer = .localName ∧ inner = .imported ∨
        n.kind = some .exportSpecifier ∧ outer = .exported ∧ inner = .localName) := by
  have hleaf {m n : Node} (hsame : isSameLeaf m n = true) : ∃ head, m = .mk head [] ∧ n = m := by
    rcases m with ⟨head, branches⟩
    rcases n with ⟨head', branches'⟩
    simp only [isSameLeaf, Bool.and_eq_true, beq_iff_eq, List.isEmpty_iff] at hsame
    obtain ⟨⟨rfl, rfl⟩, rfl⟩ := hsame
    exact ⟨head, rfl, rfl⟩
  have hnumbered : (number next n).branches = numberBranches true (next + 1) n.branches := by
    rw [← h]
    rcases n with ⟨head, branches⟩
    rfl
  unfold isTwofold at h
  split at h
  · rename_i hkind hbranches
    obtain ⟨head, rfl, rfl⟩ := hleaf h
    refine ⟨number (next + 1) (.mk head []), .localName, .imported, rfl, ?_, .inl ⟨hkind, rfl, rfl⟩⟩
    rw [hnumbered, hbranches]
    rfl
  · rename_i hkind hbranches
    obtain ⟨head, rfl, rfl⟩ := hleaf h
    refine ⟨number (next + 1) (.mk head []), .exported, .localName, rfl, ?_, .inr ⟨hkind, rfl, rfl⟩⟩
    rw [hnumbered, hbranches]
    rfl
  · exact absurd h (by simp)

/-- Apart from specifiers with one name, the children of a numbered node have nothing in common. -/
theorem pairwise_branches_number {n : Node} (h : isTwofold n = false) (next : Nat) :
    (number next n).branches.Pairwise Apart := by
  rcases n with ⟨head, branches⟩
  change (numberBranches (isTwofold (.mk head branches)) (next + 1) branches).Pairwise Apart
  rw [h]
  exact pairwise_numberBranches (next + 1) branches

/-- Children of a numbered node that have a number in common are one child. -/
theorem eq_of_id_eq_children {next : Nat} {n child child' m m' : Node} {field field' : Field}
    (hchild : (field, some child) ∈ (number next n).branches)
    (hchild' : (field', some child') ∈ (number next n).branches)
    (hm : m ∈ child.nodes) (hm' : m' ∈ child'.nodes) (hid : m.id = m'.id) : child = child' := by
  cases htwofold : isTwofold n with
  | false =>
    by_contra hne
    have hapart := (pairwise_branches_number htwofold next).forall hchild hchild' fun heq ↦
      hne (Option.some.inj (Prod.mk.inj heq).2)
    exact hapart child rfl child' rfl m hm m' hm' hid
  | true =>
    obtain ⟨leaf, outer, inner, -, hbranches, -⟩ := exists_of_isTwofold htwofold next
    rw [hbranches] at hchild hchild'
    have hleaf {field : Field} {c : Node}
        (hc : (field, some c) ∈ [(outer, some leaf), (inner, some leaf)]) : c = leaf := by
      simp only [List.mem_cons, Prod.mk.injEq, Option.some.injEq, List.not_mem_nil,
        or_false] at hc
      exact hc.elim And.right And.right
    rw [hleaf hchild, hleaf hchild']

/-- A number stands for one node. -/
theorem eq_of_id_eq_number {next : Nat} {n m m' : Node} (hm : m ∈ (number next n).nodes)
    (hm' : m' ∈ (number next n).nodes) (hid : m.id = m'.id) : m = m' := by
  induction n using Node.induction generalizing next with
  | step n ih =>
    rcases mem_nodes_iff.mp hm with rfl | ⟨field, child, hchild, hmem⟩ <;>
      rcases mem_nodes_iff.mp hm' with rfl | ⟨field', child', hchild', hmem'⟩
    · rfl
    · have hlt := lt_index_of_mem_nodes hchild' hmem'
      rw [← hid, id_number] at hlt
      exact absurd hlt (Nat.lt_irrefl _)
    · have hlt := lt_index_of_mem_nodes hchild hmem
      rw [hid, id_number] at hlt
      exact absurd hlt (Nat.lt_irrefl _)
    · obtain rfl := eq_of_id_eq_children hchild hchild' hmem hmem' hid
      obtain ⟨part, k, hpart, rfl, -⟩ := exists_of_mem_branches_number hchild
      exact ih field part hpart hmem hmem'

/-- The identities of the children at some edges, apart from those that the grammar lends. -/
def ownIds (edges : List Edge) : List NodeId :=
  (edges.filter fun e ↦ !e.isLent).map (·.child.id)

theorem exists_of_mem_ownIds {parent child : Node} {field : Field} {x : NodeId}
    (h : x ∈ ownIds (⟨parent, field, child⟩ :: child.edges)) : ∃ m ∈ child.nodes, m.id = x := by
  obtain ⟨e, he, rfl⟩ := List.mem_map.mp h
  refine ⟨e.child, ?_, rfl⟩
  rcases List.mem_cons.mp (List.mem_filter.mp he).1 with rfl | hinner
  · exact child.mem_nodes_self
  · obtain ⟨hparent, hbranch⟩ := Node.mem_edges_iff.mp hinner
    exact Node.mem_nodes_of_mem_branches hparent hbranch

/-- What the edges of a numbered tree lead to has greater numbers than the tree. -/
theorem lt_index_of_mem_ownIds {next : Nat} {n : Node} {x : NodeId}
    (h : x ∈ ownIds (number next n).edges) : next < x.index := by
  rw [ownIds, Node.edges_eq, List.filter_flatMap, List.map_flatMap, List.mem_flatMap] at h
  obtain ⟨⟨field, child⟩, hchild, h⟩ := h
  obtain ⟨m, hm, rfl⟩ := exists_of_mem_ownIds h
  exact lt_index_of_mem_nodes (Node.mem_children_iff.mp hchild) hm

/-- The one name of a specifier has one edge of its own. -/
theorem nodup_ownIds_of_isTwofold {n : Node} (h : isTwofold n = true) (next : Nat) :
    (ownIds (number next n).edges).Nodup := by
  obtain ⟨leaf, outer, inner, hleaf, hbranches, hlabels⟩ := exists_of_isTwofold h next
  have hnone : leaf.edges = [] := by
    rw [Node.edges_eq, Node.children, hleaf]
    rfl
  have hedges : (number next n).edges =
      [⟨number next n, outer, leaf⟩, ⟨number next n, inner, leaf⟩] := by
    rw [Node.edges_eq, Node.children, hbranches]
    simp [hnone]
  rw [ownIds, hedges]
  rcases hlabels with ⟨hkind, rfl, rfl⟩ | ⟨hkind, rfl, rfl⟩ <;>
    simp [Edge.isLent, Edge.isAlso, kind_number, hkind, Node.child?, Node.items, hbranches]

/-- The edge to a numbered child adds a number that the child's own edges do not have. -/
theorem nodup_ownIds_cons {next : Nat} {parent n : Node} {field : Field}
    (h : (ownIds (number next n).edges).Nodup) :
    (ownIds (⟨parent, field, number next n⟩ :: (number next n).edges)).Nodup := by
  rw [ownIds, List.filter_cons]
  split
  · refine List.nodup_cons.mpr ⟨fun hmem ↦ ?_, h⟩
    have hlt := lt_index_of_mem_ownIds hmem
    dsimp only at hlt
    rw [id_number] at hlt
    exact absurd hlt (Nat.lt_irrefl _)
  · exact h

/-- Children that have nothing in common have no identities in common. -/
theorem disjoint_ownIds {parent child child' : Node} {field field' : Field}
    (h : Apart (field, some child) (field', some child')) :
    (ownIds (⟨parent, field, child⟩ :: child.edges)).Disjoint
      (ownIds (⟨parent, field', child'⟩ :: child'.edges)) := by
  refine List.disjoint_left.mpr fun x hx hx' ↦ ?_
  obtain ⟨m, hm, rfl⟩ := exists_of_mem_ownIds hx
  obtain ⟨m', hm', hid⟩ := exists_of_mem_ownIds hx'
  exact h child rfl child' rfl m hm m' hm' hid.symm

/-- Every node of a numbered tree is reached once, apart from what the grammar lends. -/
theorem nodup_ownIds_number (next : Nat) (n : Node) : (ownIds (number next n).edges).Nodup := by
  induction n using Node.induction generalizing next with
  | step n ih =>
    cases htwofold : isTwofold n with
    | true => exact nodup_ownIds_of_isTwofold htwofold next
    | false =>
      rw [ownIds, Node.edges_eq, List.filter_flatMap, List.map_flatMap, List.nodup_flatMap]
      constructor
      · rintro ⟨field, child⟩ hchild
        obtain ⟨part, k, hpart, rfl, -⟩ :=
          exists_of_mem_branches_number (Node.mem_children_iff.mp hchild)
        exact nodup_ownIds_cons (ih field part hpart k)
      · rw [Node.children]
        refine (pairwise_branches_number htwofold next).filterMap _ fun b b' hapart c hc c' hc' ↦ ?_
        obtain ⟨field, part⟩ := b
        obtain ⟨field', part'⟩ := b'
        obtain ⟨child, rfl, rfl⟩ := Option.map_eq_some_iff.mp hc
        obtain ⟨child', rfl, rfl⟩ := Option.map_eq_some_iff.mp hc'
        exact disjoint_ownIds hapart

/-- A numbered tree has no shared nodes. -/
theorem unshared_number (next : Nat) (n : Node) : (number next n).Unshared where
  identity _ hm _ hm' hid := eq_of_id_eq_number hm hm' hid
  distinct := nodup_ownIds_number next n

/-- The key of a numbered property is not found in its value. -/
theorem sharesKey_number {n : Node} (hkind : n.kind = some .property) (next : Nat) :
    Edits.sharesKey (number next n) = false := by
  have htwofold : isTwofold n = false := by
    unfold isTwofold
    rw [hkind]
  by_contra hshares
  obtain ⟨key, value, hkey, hvalue, hshared⟩ :=
    Node.sharesKey_iff.mp (Bool.not_eq_false _ ▸ hshares)
  have hapart := (pairwise_branches_number htwofold next).forall
    (Node.mem_branches_of_child? hkey) (Node.mem_branches_of_child? hvalue) (by simp)
    key rfl value rfl key key.mem_nodes_self
  rcases hshared with hsame | ⟨-, target, htarget, hsame⟩
  · exact hapart value value.mem_nodes_self hsame
  · have htargetMem := Node.mem_nodes_of_mem_branches value.mem_nodes_self
      (Node.mem_branches_of_child? htarget)
    exact hapart target htargetMem hsame.symm

end Relabel.Source
