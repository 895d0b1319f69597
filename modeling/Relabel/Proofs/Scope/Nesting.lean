import Relabel.Proofs.Scope.Occurrence
import Relabel.Proofs.Syntax.Walk

/-!
# Nodes that stand in each other

In a program without shared nodes one path leads to a node that is no name. So of two nodes that
hold it one holds the other, and it is the same to say of a node that a walk comes to it past no
skipped node, and that no skipped node stands between it and the root of the walk.
-/

namespace Relabel.Node

theorem eq_of_mem_nodes_of_mem_nodes {n m : Node} (hm : m ∈ n.nodes) (hn : n ∈ m.nodes) :
    m = n := by
  rcases mem_nodes_iff.mp hm with hsame | ⟨field, child, hchild, hbelow⟩
  · exact hsame
  · have hfirst := size_lt_of_mem_branches hchild
    have hsecond := size_le_of_mem_nodes hbelow
    have hthird := size_le_of_mem_nodes hn
    omega

/-- A child does not hold its parent. -/
theorem not_mem_nodes_of_mem_branches {n child : Node} {field : Field}
    (hchild : (field, some child) ∈ n.branches) : n ∉ child.nodes := by
  intro hn
  have hsmaller := size_lt_of_mem_branches hchild
  have hlarger := size_le_of_mem_nodes hn
  omega

/-- A node below the root of a tree has a parent in the tree. -/
theorem exists_parent {tree n : Node} (h : n ∈ tree.nodes) (hne : n ≠ tree) :
    ∃ parent ∈ tree.nodes, ∃ field, (field, some n) ∈ parent.branches := by
  rw [nodes_eq_edges, List.mem_cons, List.mem_map] at h
  rcases h with hroot | ⟨e, he, rfl⟩
  · exact absurd hroot hne
  · obtain ⟨hparent, hbranch⟩ := mem_edges_iff.mp he
    exact ⟨e.parent, hparent, e.field, hbranch⟩

/-- The nodes of a tree are its root and the children of its nodes. -/
theorem nodes_induction {tree : Node} {P : Node → Prop} (root : P tree)
    (child : ∀ n ∈ tree.nodes, P n → ∀ field c, (field, some c) ∈ n.branches → P c) :
    ∀ n ∈ tree.nodes, P n := by
  induction tree using Node.induction with
  | step tree ih =>
    intro n hn
    rcases mem_nodes_iff.mp hn with rfl | ⟨field, c, hc, hmem⟩
    · exact root
    · refine ih field c hc (child tree tree.mem_nodes_self root field c hc) ?_ n hmem
      intro m hm
      exact child m (mem_nodes_iff.mpr (.inr ⟨field, c, hc, hm⟩))

namespace WellFormed

variable {tree a b m n : Node}

/-- Names hold nothing. -/
theorem isNaming_of_mem_branches (h : tree.WellFormed) (hn : n ∈ tree.nodes) {field : Field}
    (hchild : (field, some m) ∈ n.branches) : n.isNaming = false := by
  rw [Bool.eq_false_iff]
  intro hnaming
  simp only [isNaming, isIdentifier, hasKind, Bool.or_eq_true, beq_iff_eq] at hnaming
  have hchild := mem_children_iff.mpr hchild
  rcases hnaming with hkind | hkind <;>
    exact absurd (mem_labels_of_isShaped (h.shaped n hn) hkind rfl hchild) List.not_mem_nil

theorem isNaming_eq_false (h : tree.WellFormed) (hn : n ∈ tree.nodes) (hm : m ∈ n.nodes)
    (hname : m.isNaming = false) : n.isNaming = false := by
  rcases mem_nodes_iff.mp hm with rfl | ⟨field, child, hchild, -⟩
  · exact hname
  · exact h.isNaming_of_mem_branches hn hchild

/-- A node that is no name has one parent. -/
theorem parent_eq (h : tree.WellFormed) (hunshared : tree.Unshared) (hname : m.isNaming = false)
    (ha : a ∈ tree.nodes) (hb : b ∈ tree.nodes) {field field' : Field}
    (hfirst : (field, some m) ∈ a.branches) (hsecond : (field', some m) ∈ b.branches) :
    a = b ∧ field = field' := by
  have hlent {parent : Node} {place : Field} (hedge : ⟨parent, place, m⟩ ∈ tree.edges) :
      (Edge.mk parent place m).isLent = false := by
    rw [Bool.eq_false_iff]
    intro hlent
    exact absurd ((h.isNaming_of_isLent hedge hlent).symm.trans hname) (by simp)
  have hedge := mem_edges_iff (e := ⟨a, field, m⟩).mpr ⟨ha, hfirst⟩
  have hedge' := mem_edges_iff (e := ⟨b, field', m⟩).mpr ⟨hb, hsecond⟩
  have hsame := hunshared.edge_eq hedge hedge' (hlent hedge) (hlent hedge') rfl
  exact ⟨congrArg Edge.parent hsame, congrArg Edge.field hsame⟩

/-- Where a node other than the child of a node holds the child, it holds the node. -/
theorem mem_nodes_of_child (h : tree.WellFormed) (hunshared : tree.Unshared)
    (hname : m.isNaming = false) (hn : n ∈ tree.nodes) {field : Field}
    (hchild : (field, some m) ∈ n.branches) (ha : a ∈ tree.nodes) (hm : m ∈ a.nodes)
    (hne : m ≠ a) : n ∈ a.nodes := by
  obtain ⟨parent, hparent, place, hplace⟩ := exists_parent hm hne
  obtain ⟨rfl, -⟩ := h.parent_eq hunshared hname hn (mem_nodes_trans ha hparent) hchild hplace
  exact hparent

/-- Of two nodes that hold a third one holds the other. -/
theorem mem_nodes_or_mem_nodes (h : tree.WellFormed) (hunshared : tree.Unshared)
    (ha : a ∈ tree.nodes) (hb : b ∈ tree.nodes) (hname : m.isNaming = false)
    (hma : m ∈ a.nodes) (hmb : m ∈ b.nodes) : a ∈ b.nodes ∨ b ∈ a.nodes := by
  -- From `a` down to `m`: as long as `b` is not met, it is above.
  revert hname hmb
  refine nodes_induction (P := fun m ↦ m.isNaming = false → m ∈ b.nodes →
    a ∈ b.nodes ∨ b ∈ a.nodes) (fun _ hab ↦ .inl hab) ?_ m hma
  intro n hn ih field c hc hname hmb
  by_cases hsame : c = b
  · exact .inr (hsame ▸ mem_nodes_of_mem_branches hn hc)
  · have hntree := mem_nodes_trans ha hn
    have hnb := h.mem_nodes_of_child hunshared hname hntree hc hb hmb hsame
    exact ih (h.isNaming_eq_false hntree (mem_nodes_of_mem_branches n.mem_nodes_self hc) hname) hnb

/-- Two children of a node that hold a common node stand under one label. -/
theorem field_eq (h : tree.WellFormed) (hunshared : tree.Unshared) (hn : n ∈ tree.nodes)
    {field field' : Field} (ha : (field, some a) ∈ n.branches) (hb : (field', some b) ∈ n.branches)
    (hname : m.isNaming = false) (hma : m ∈ a.nodes) (hmb : m ∈ b.nodes) : field = field' := by
  have haTree := mem_nodes_of_mem_branches hn ha
  have hbTree := mem_nodes_of_mem_branches hn hb
  by_cases hsame : a = b
  · subst hsame
    exact (h.parent_eq hunshared (h.isNaming_eq_false haTree hma hname) hn hn ha hb).2
  · exfalso
    rcases h.mem_nodes_or_mem_nodes hunshared haTree hbTree hname hma hmb with hbelow | hbelow
    · have haName := h.isNaming_eq_false haTree hma hname
      exact not_mem_nodes_of_mem_branches hb
        (h.mem_nodes_of_child hunshared haName hn ha hbTree hbelow hsame)
    · have hbName := h.isNaming_eq_false hbTree hmb hname
      exact not_mem_nodes_of_mem_branches ha
        (h.mem_nodes_of_child hunshared hbName hn hb haTree hbelow (Ne.symm hsame))

end WellFormed

/-- What stands between a node and something below one of its children stands below the child. -/
theorem WellFormed.mem_nodes_of_between {tree n child k m : Node} (h : tree.WellFormed)
    (hunshared : tree.Unshared) (hname : m.isNaming = false) (hn : n ∈ tree.nodes) {field : Field}
    (hchild : (field, some child) ∈ n.branches) (hm : m ∈ child.nodes) (hk : k ∈ n.nodes)
    (hne : k ≠ n) (hmk : m ∈ k.nodes) : k ∈ child.nodes := by
  have hkTree := mem_nodes_trans hn hk
  have hchildTree := mem_nodes_of_mem_branches hn hchild
  rcases h.mem_nodes_or_mem_nodes hunshared hkTree hchildTree hname hmk hm with hin | hout
  · exact hin
  · by_cases hsame : child = k
    · exact hsame ▸ child.mem_nodes_self
    · have hchildName := h.isNaming_eq_false hchildTree hm hname
      have hnk := h.mem_nodes_of_child hunshared hchildName hn hchild hkTree hout hsame
      exact absurd (eq_of_mem_nodes_of_mem_nodes hk hnk) hne

/-! ## Nothing of a kind in between -/

/-- A node stands in another one, and no node of a kind stands strictly between them. -/
structure HoldsClear (kind : Kind) (root m : Node) : Prop where
  mem : m ∈ root.nodes
  clear : ∀ n ∈ root.nodes, n ≠ root → m ∈ n.nodes → m ≠ n → n.kind ≠ some kind

/-- A walk that skips what is below nodes of some kinds comes from one node to another. -/
inductive Enters (skip : List Kind) : Node → Node → Prop
  | here (n : Node) : Enters skip n n
  | child {n child m : Node} {field : Field} : n.isSkipped skip = false →
      (field, some child) ∈ n.branches → Enters skip child m → Enters skip n m

theorem enters_iff {skip : List Kind} {n m : Node} :
    Enters skip n m ↔ m = n ∨ n.isSkipped skip = false ∧
      ∃ field child, (field, some child) ∈ n.branches ∧ Enters skip child m := by
  constructor
  · rintro (_ | ⟨hskip, hchild, hmore⟩)
    · exact .inl rfl
    · exact .inr ⟨hskip, _, _, hchild, hmore⟩
  · rintro (rfl | ⟨hskip, field, child, hchild, hmore⟩)
    · exact .here m
    · exact .child hskip hchild hmore

section Walks

variable {skip : List Kind} {m : Node}

theorem exists_visit_flatMap_iff {n : Node} {f : Node → List Visit} :
    (∃ visit ∈ n.children.flatMap fun c ↦ f c.2, visit.node = m) ↔
      ∃ field child, (field, some child) ∈ n.branches ∧ ∃ visit ∈ f child, visit.node = m := by
  simp only [List.mem_flatMap]
  constructor
  · rintro ⟨visit, ⟨⟨field, child⟩, hc, hvisit⟩, hm⟩
    exact ⟨field, child, mem_children_iff.mp hc, visit, hvisit, hm⟩
  · rintro ⟨field, child, hchild, visit, hvisit, hm⟩
    exact ⟨visit, ⟨(field, child), mem_children_iff.mpr hchild, hvisit⟩, hm⟩

/-- The pre-order lists what can be entered. -/
theorem exists_visit_preorder_iff {n holder : Node} :
    (∃ visit ∈ n.preorder skip (some holder), visit.node = m) ↔ Enters skip n m := by
  induction n using Node.induction generalizing holder with
  | step n ih =>
    rw [preorder_eq, List.exists_mem_cons_iff, enters_iff, eq_comm (a := m)]
    refine or_congr_right ?_
    cases n.isSkipped skip with
    | true => simp
    | false =>
      rw [Bool.and_false, if_neg Bool.false_ne_true,
        exists_visit_flatMap_iff (f := fun child ↦ child.preorder skip (some n)),
        eq_self_iff_true, true_and]
      exact exists_congr fun field ↦ exists_congr fun child ↦
        and_congr_right fun hchild ↦ ih field child hchild

/-- A walk visits its root, and what can be entered from the children of the root. -/
theorem exists_visit_walk_iff {root : Node} (htyped : ∀ n ∈ root.nodes, n.isTyped = true) :
    (∃ visit ∈ (root.walk skip).visits, visit.node = m) ↔
      m = root ∨ ∃ field child, (field, some child) ∈ root.branches ∧ Enters skip child m := by
  rw [walk_eq_preorder htyped, preorder_eq, Option.isSome_none, Bool.false_and,
    if_neg Bool.false_ne_true, List.exists_mem_cons_iff, eq_comm (a := m),
    exists_visit_flatMap_iff (f := fun child ↦ child.preorder skip (some root))]
  simp only [exists_visit_preorder_iff]

end Walks

theorem isSkipped_singleton {kind : Kind} {n : Node} :
    n.isSkipped [kind] = false ↔ n.kind ≠ some kind := by
  unfold isSkipped
  cases n.kind <;> simp

/-- A node can be entered if nothing of the skipped kind stands above it. -/
theorem enters_of_clear {kind : Kind} {n m : Node} (hm : m ∈ n.nodes)
    (hclear : ∀ k ∈ n.nodes, m ∈ k.nodes → m ≠ k → k.kind ≠ some kind) : Enters [kind] n m := by
  induction n using Node.induction with
  | step n ih =>
    by_cases hsame : m = n
    · exact hsame ▸ .here m
    · obtain ⟨field, child, hchild, hbelow⟩ := (mem_nodes_iff.mp hm).resolve_left hsame
      refine .child (isSkipped_singleton.mpr (hclear n n.mem_nodes_self hm hsame)) hchild ?_
      exact ih field child hchild hbelow fun k hk ↦
        hclear k (mem_nodes_iff.mpr (.inr ⟨field, child, hchild, hk⟩))

namespace WellFormed

variable {tree root n m : Node} {kind : Kind}

/-- What is above a node that can be entered is not of the skipped kind. -/
theorem clear_of_enters (h : tree.WellFormed) (hunshared : tree.Unshared) (hn : n ∈ tree.nodes)
    (hname : m.isNaming = false) (henters : Enters [kind] n m) :
    m ∈ n.nodes ∧ ∀ k ∈ n.nodes, m ∈ k.nodes → m ≠ k → k.kind ≠ some kind := by
  induction henters with
  | here m =>
    exact ⟨m.mem_nodes_self, fun k hk hm hne ↦
      absurd (eq_of_mem_nodes_of_mem_nodes hm hk) hne⟩
  | @child n child m field hskip hchild _ ih =>
    obtain ⟨hm, hclear⟩ := ih (mem_nodes_of_mem_branches hn hchild) hname
    refine ⟨mem_nodes_iff.mpr (.inr ⟨field, child, hchild, hm⟩), fun k hk hmk hne ↦ ?_⟩
    by_cases hsame : k = n
    · exact hsame ▸ isSkipped_singleton.mp hskip
    · exact hclear k (h.mem_nodes_of_between hunshared hname hn hchild hm hk hsame hmk) hmk hne

/-- A walk that skips what is below nodes of a kind visits, of what is no name, just what its root
holds with no node of the kind in between. -/
theorem exists_visit_iff (h : tree.WellFormed) (hunshared : tree.Unshared)
    (hroot : root ∈ tree.nodes) (hname : m.isNaming = false) :
    (∃ visit ∈ (root.walk [kind]).visits, visit.node = m) ↔ root.HoldsClear kind m := by
  have htyped : ∀ n ∈ root.nodes, n.isTyped = true :=
    fun n hn ↦ h.isTyped n (mem_nodes_trans hroot hn)
  rw [exists_visit_walk_iff htyped]
  constructor
  · rintro (rfl | ⟨field, child, hchild, henters⟩)
    · exact ⟨m.mem_nodes_self, fun n hn _ hm hne ↦
        absurd (eq_of_mem_nodes_of_mem_nodes hm hn) hne⟩
    · obtain ⟨hm, hclear⟩ :=
        h.clear_of_enters hunshared (mem_nodes_of_mem_branches hroot hchild) hname henters
      refine ⟨mem_nodes_iff.mpr (.inr ⟨field, child, hchild, hm⟩), fun n hn hne hmn ↦ ?_⟩
      exact hclear n (h.mem_nodes_of_between hunshared hname hroot hchild hm hn hne hmn) hmn
  · rintro ⟨hmem, hclear⟩
    refine (mem_nodes_iff.mp hmem).imp_right ?_
    rintro ⟨field, child, hchild, hm⟩
    refine ⟨field, child, hchild, enters_of_clear hm fun k hk ↦ ?_⟩
    have hkroot : k ∈ root.nodes := mem_nodes_iff.mpr (.inr ⟨field, child, hchild, hk⟩)
    refine hclear k hkroot ?_
    rintro rfl
    have hsmaller := size_lt_of_mem_branches hchild
    have hlarger := size_le_of_mem_nodes hk
    omega

/-- A node that a candidate holds clear is below no other candidate that is below the first. -/
theorem eq_of_mem_of_holdsClear (h : tree.WellFormed) (hunshared : tree.Unshared) {other : Node}
    {field : Field} (hn : n ∈ tree.nodes) (hroot : (field, some root) ∈ n.branches)
    (hclear : root.HoldsClear kind m) (hname : m.isNaming = false) (hother : other ∈ n.nodes)
    (hkind : other.kind = some kind) (hm : m ∈ other.nodes) (hne : m ≠ other)
    (hpart : other ≠ root) : other = n := by
  by_contra hdistinct
  have hbelow :=
    h.mem_nodes_of_between hunshared hname hn hroot hclear.mem hother hdistinct hm
  exact hclear.clear other hbelow hpart hm hne hkind

/-- Two candidates of one kind that both hold a node clear, each under one of its parts, are one
candidate, if the parts are no candidates. -/
theorem eq_of_holdsClear (h : tree.WellFormed) (hunshared : tree.Unshared) {n' root' : Node}
    {field field' : Field} (hn : n ∈ tree.nodes) (hn' : n' ∈ tree.nodes)
    (hkind : n.kind = some kind) (hkind' : n'.kind = some kind)
    (hroot : (field, some root) ∈ n.branches) (hroot' : (field', some root') ∈ n'.branches)
    (hpart : n' ≠ root) (hpart' : n ≠ root') (hname : m.isNaming = false)
    (hother : m.kind ≠ some kind) (hclear : root.HoldsClear kind m)
    (hclear' : root'.HoldsClear kind m) : n = n' := by
  have hm := mem_nodes_iff.mpr (.inr ⟨field, root, hroot, hclear.mem⟩)
  have hm' := mem_nodes_iff.mpr (.inr ⟨field', root', hroot', hclear'.mem⟩)
  have hne : m ≠ n := by
    rintro rfl
    exact hother hkind
  have hne' : m ≠ n' := by
    rintro rfl
    exact hother hkind'
  rcases h.mem_nodes_or_mem_nodes hunshared hn hn' hname hm hm' with hbelow | hbelow
  · exact h.eq_of_mem_of_holdsClear hunshared hn' hroot' hclear' hname hbelow hkind hm hne hpart'
  · exact (h.eq_of_mem_of_holdsClear hunshared hn hroot hclear hname hbelow hkind' hm' hne'
      hpart).symm

end WellFormed

end Relabel.Node
