import Relabel.Proofs.Labeling.Frame
import Relabel.Proofs.Labeling.Outcome

/-!
# Where a walk comes to

A walk that comes to its end has visited every node of the program that is no identifier. The nodes
below a node are looked at as the edits leave them, and edits put nothing in the place of a node but
in that of a key.
-/

namespace Relabel

namespace Labeling

variable {P : Labeling → Prop} {Q : Labeling → Fault → Prop} {V : Node → Prop} {l next : Labeling}
  {table : Table Kind (List Idiom)} {m n : Node}

/-- What a visit to a node leads to, and walks keep, holds at the end of a walk over the node. -/
theorem Invariant.of_visit (hP : Invariant P Q V table) {D : Labeling → Prop}
    (hkept : ∀ l stack, D l → D (l.sweep table stack).1)
    (hvisit : ∀ l next, P l → l.visit m ((m.kind.bind table.get?).getD []) = (next, none) → D next)
    (hbelow : ∀ l n, P l → V n → m ∈ n.nodes → m ≠ n → ∃ entry ∈ l.descents n, m ∈ entry.1.nodes)
    (h : P l) {stack : List (Node × Option Node)} (hstack : ∀ entry ∈ stack, V entry.1)
    (hm : ∃ entry ∈ stack, m ∈ entry.1.nodes) (hend : l.sweep table stack = (next, none)) :
    D next := by
  fun_induction Labeling.sweep l table stack with
  | case1 =>
    obtain ⟨entry, hentry, -⟩ := hm
    exact absurd hentry List.not_mem_nil
  | case2 => simp at hend
  | case3 l n parent rest _ idioms mid hresult ih =>
    have hn := hstack (n, parent) List.mem_cons_self
    have hmid : P mid := by
      have hvisited : Ends P Q (l.visit n idioms) :=
        .visit (fun l idiom hidiom hl ↦ hP.step l n idiom hl hn hidiom) h
      rw [hresult] at hvisited
      exact hvisited.1
    have hmore : ∀ entry ∈ mid.descents n ++ rest, V entry.1 := by
      intro entry hentry
      rcases List.mem_append.mp hentry with hdescent | hrest
      · exact hP.descents mid n hn entry hdescent
      · exact hstack entry (List.mem_cons_of_mem _ hrest)
    obtain ⟨entry, hentry, hnodes⟩ := hm
    rcases List.mem_cons.mp hentry with rfl | hrest
    · by_cases hsame : m = n
      · subst hsame
        have hkeptEnd := hkept mid (mid.descents m ++ rest) (hvisit l mid h hresult)
        rwa [hend] at hkeptEnd
      · obtain ⟨entry, hentry, hnodes⟩ := hbelow mid n hmid hn hnodes hsame
        exact ih hmid hmore ⟨entry, List.mem_append_left _ hentry, hnodes⟩ hend
    · exact ih hmid hmore ⟨entry, List.mem_append_right _ hrest, hnodes⟩ hend
  | case4 => simp at hend

/-- A node below another is below a child that is looked at, unless it is part of a key that was
replaced. -/
theorem exists_descent (l : Labeling) (hm : m ∈ n.nodes) (hne : m ≠ n)
    (hkeys : ∀ name, l.engine.edits.writtenOut.get? n.id = some (some name) →
      ∀ key, (Field.key, some key) ∈ n.branches → m ∉ key.nodes) :
    ∃ entry ∈ l.descents n, m ∈ entry.1.nodes := by
  rcases Node.mem_nodes_iff.mp hm with rfl | ⟨field, child, hchild, hm⟩
  · exact absurd rfl hne
  refine ⟨(child, some n), List.mem_map.mpr ⟨(field, child), ?_, rfl⟩, hm⟩
  have hlooked : (field, some child) ∈ l.engine.edits.withKey n.id n.branches := by
    unfold Edits.withKey
    split
    · rename_i name hname
      refine List.mem_map.mpr ⟨(field, some child), hchild, if_neg ?_⟩
      rintro ⟨rfl, -⟩
      exact hkeys name hname child hchild hm
    · exact hchild
  exact Node.mem_children_iff.mpr hlooked

end Labeling

/-- Nothing stands below an identifier or a literal. -/
theorem Node.WellFormed.eq_of_mem_nodes {tree : Node} (h : tree.WellFormed) {n m : Node}
    (hn : n ∈ tree.nodes) (hnaming : n.isNaming = true) (hm : m ∈ n.nodes) : m = n := by
  rcases Node.mem_nodes_iff.mp hm with rfl | ⟨field, child, hchild, -⟩
  · rfl
  · have hkind : n.kind = some .identifier ∨ n.kind = some .literal := by
      simpa [Node.isNaming, Node.isIdentifier, Node.hasKind] using hnaming
    rcases hkind with hkind | hkind
    all_goals
      have hlabels := Node.mem_labels_of_isShaped (h.shaped n hn) hkind rfl
        (Node.mem_children_iff.mpr hchild)
      exact absurd hlabels List.not_mem_nil

/-- A walk comes from a node of the program to all nodes below it that are no identifiers. -/
theorem Store.Grants.exists_descent {s live : Store} {requests : List Request} {tree : Node}
    {l : Labeling} (h : s.Grants requests live l.engine.edits) (hcovers : s.Covers tree)
    (hformed : tree.WellFormed) (hunshared : tree.Unshared) {n m : Node}
    (hn : Labeling.Visitable tree n) (hm : m ∈ n.nodes) (hne : m ≠ n)
    (hidentifier : m.isIdentifier = false) : ∃ entry ∈ l.descents n, m ∈ entry.1.nodes := by
  rcases hn with hn | ⟨-, hbare⟩
  · refine l.exists_descent hm hne fun name hname key hkey hmem ↦ ?_
    rw [h.writtenOut hcovers hunshared hn] at hname
    split at hname
    · rename_i hwritten
      obtain ⟨hkind, hshorthand, -⟩ := writesOut_iff.mp hwritten
      have hsingle := Node.length_items_of_isShaped (hformed.shaped n hn) hkind rfl
        (by decide : Field.key ∈ _) (by decide)
      have hidentifierKey := (hformed.isIdentifier_key hn hkind hshorthand
        (Node.child?_eq_some_of_mem hsingle hkey)).2
      have hkeyMem := Node.mem_nodes_of_mem_branches hn hkey
      rw [hformed.eq_of_mem_nodes hkeyMem (by simp [Node.isNaming, hidentifierKey]) hmem,
        hidentifierKey] at hidentifier
      exact absurd hidentifier (by simp)
    · exact absurd hname (by simp)
  · rcases Node.mem_nodes_iff.mp hm with rfl | ⟨_, _, hchild, -⟩
    · exact absurd rfl hne
    · rw [hbare] at hchild
      exact absurd hchild List.not_mem_nil

end Relabel
