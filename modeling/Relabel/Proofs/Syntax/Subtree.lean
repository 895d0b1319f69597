import Relabel.Syntax.Query

/-!
# The nodes of a tree

Induction over a tree follows its branches. The nodes of a tree are listed in reading order, once
for every path that leads to them.
-/

namespace Relabel

/-- A node under a label of the node that holds it. -/
structure Edge where
  parent : Node
  field : Field
  child : Node

namespace Node

theorem isIdentifier_iff {n : Node} : n.isIdentifier = true ↔ n.kind = some .identifier := by
  simp [isIdentifier, hasKind]

theorem mem_children_iff {n child : Node} {field : Field} :
    (field, child) ∈ n.children ↔ (field, some child) ∈ n.branches := by
  simp only [children, List.mem_filterMap, Prod.exists, Option.map_eq_some_iff, Prod.mk.injEq]
  constructor
  · rintro ⟨_, _, hbranch, _, rfl, rfl, rfl⟩
    exact hbranch
  · exact fun hbranch ↦ ⟨field, some child, hbranch, child, rfl, rfl, rfl⟩

theorem mem_items_iff {n : Node} {field : Field} {item : Option Node} :
    item ∈ n.items field ↔ (field, item) ∈ n.branches := by
  simp only [items, List.mem_filterMap, Prod.exists, Option.ite_none_right_eq_some,
    Option.some.injEq]
  constructor
  · rintro ⟨_, _, hbranch, rfl, rfl⟩
    exact hbranch
  · exact fun hbranch ↦ ⟨field, item, hbranch, rfl, rfl⟩

theorem items_cons (head : Head) (branch : Field × Option Node)
    (rest : List (Field × Option Node)) (field : Field) :
    (Node.mk head (branch :: rest)).items field =
      if branch.1 = field then branch.2 :: (Node.mk head rest).items field
      else (Node.mk head rest).items field := by
  by_cases hfield : branch.1 = field <;> simp [items, branches, hfield]

theorem child?_cons (head : Head) (branch : Field × Option Node)
    (rest : List (Field × Option Node)) (field : Field) :
    (Node.mk head (branch :: rest)).child? field =
      if branch.1 = field then branch.2 else (Node.mk head rest).child? field := by
  rw [child?, items_cons]
  by_cases hfield : branch.1 = field <;> simp [hfield, child?]

theorem mem_branches_of_child? {n child : Node} {field : Field} (h : n.child? field = some child) :
    (field, some child) ∈ n.branches := by
  rw [← mem_items_iff]
  rw [child?, Option.join_eq_some_iff] at h
  exact List.mem_of_mem_head? h

theorem le_total_of_mem {sizes : List Nat} {size : Nat} (h : size ∈ sizes) :
    size ≤ total sizes := by
  induction sizes with
  | nil => exact absurd h List.not_mem_nil
  | cons first rest ih =>
    rw [total_cons]
    rcases List.mem_cons.mp h with rfl | hrest
    · exact Nat.le_add_right _ _
    · exact Nat.le_trans (ih hrest) (Nat.le_add_left _ _)

theorem size_lt_of_mem_branches {n child : Node} {field : Field}
    (h : (field, some child) ∈ n.branches) : child.size < n.size := by
  have hmem : child.size ∈ n.children.map (·.2.size) :=
    List.mem_map.mpr ⟨(field, child), mem_children_iff.mpr h, rfl⟩
  exact Nat.lt_of_le_of_lt (le_total_of_mem hmem) n.total_size_children_lt

theorem induction {P : Node → Prop}
    (step : ∀ n, (∀ field child, (field, some child) ∈ n.branches → P child) → P n) (n : Node) :
    P n :=
  step n fun _ child _ ↦ induction step child
termination_by n.size
decreasing_by exact size_lt_of_mem_branches (by assumption)

/-- All nodes of a tree. -/
def nodes : Node → List Node :=
  fold fun n results ↦ n :: (results.filterMap Prod.snd).flatten

theorem nodes_eq (n : Node) : n.nodes = n :: n.children.flatMap (·.2.nodes) := by
  have hresults (branches : List (Field × Option Node)) :
      ((branches.map fun b ↦ (b.1, b.2.map nodes)).filterMap Prod.snd).flatten =
        (branches.filterMap fun b ↦ b.2.map (b.1, ·)).flatMap (·.2.nodes) := by
    induction branches with
    | nil => rfl
    | cons branch rest ih =>
      rcases branch with ⟨field, child⟩
      cases child with
      | none => simpa using ih
      | some child => simpa using ih
  rw [nodes, fold_eq, children]
  exact congrArg (n :: ·) (hresults n.branches)

theorem mem_nodes_self (n : Node) : n ∈ n.nodes := by
  rw [nodes_eq]
  exact List.mem_cons_self

theorem mem_nodes_iff {n m : Node} :
    m ∈ n.nodes ↔ m = n ∨ ∃ field child, (field, some child) ∈ n.branches ∧ m ∈ child.nodes := by
  rw [nodes_eq, List.mem_cons, List.mem_flatMap]
  simp only [Prod.exists, mem_children_iff]

/-- The nodes of a tree hold nodes of the tree only. -/
theorem mem_nodes_of_mem_branches {tree n child : Node} {field : Field} (hn : n ∈ tree.nodes)
    (hchild : (field, some child) ∈ n.branches) : child ∈ tree.nodes := by
  induction tree using Node.induction with
  | step tree ih =>
    obtain rfl | ⟨place, part, hpart, hmem⟩ := mem_nodes_iff.mp hn
    · exact mem_nodes_iff.mpr (.inr ⟨field, child, hchild, mem_nodes_self child⟩)
    · exact mem_nodes_iff.mpr (.inr ⟨place, part, hpart, ih place part hpart hmem⟩)

theorem mem_nodes_trans {tree n m : Node} (hn : n ∈ tree.nodes) (hm : m ∈ n.nodes) :
    m ∈ tree.nodes := by
  induction n using Node.induction with
  | step n ih =>
    obtain rfl | ⟨field, child, hchild, hmem⟩ := mem_nodes_iff.mp hm
    · exact hn
    · exact ih field child hchild (mem_nodes_of_mem_branches hn hchild) hmem

/-! ## Edges -/

mutual

/-- The edges of a tree in reading order, each as often as a path leads to it. -/
def edges : Node → List Edge
  | mk head branches => edgesAlong (mk head branches) branches

def edgesAlong (parent : Node) : List (Field × Option Node) → List Edge
  | [] => []
  | (field, some child) :: rest => ⟨parent, field, child⟩ :: (edges child ++ edgesAlong parent rest)
  | (_, none) :: rest => edgesAlong parent rest

end

theorem edges_eq (n : Node) :
    n.edges = n.children.flatMap fun c ↦ ⟨n, c.1, c.2⟩ :: c.2.edges := by
  have halong (parent : Node) (branches : List (Field × Option Node)) :
      edgesAlong parent branches = (branches.filterMap fun b ↦ b.2.map (b.1, ·)).flatMap
        fun c ↦ ⟨parent, c.1, c.2⟩ :: c.2.edges := by
    induction branches with
    | nil => simp [edgesAlong]
    | cons branch rest ih =>
      rcases branch with ⟨field, child⟩
      cases child with
      | none => simpa [edgesAlong] using ih
      | some child => simp [edgesAlong, ih]
  rcases n with ⟨head, branches⟩
  exact halong (.mk head branches) branches

/-- The children under one label. -/
def under (n : Node) (field : Field) : List (Field × Node) :=
  n.children.filter fun c ↦ c.1 = field

theorem mem_under_iff {n : Node} {field : Field} {c : Field × Node} :
    c ∈ n.under field ↔ c ∈ n.children ∧ c.1 = field := by
  simp [under]

end Node

theorem total_filter_add {α : Type} (weight : α → Nat) (p : α → Bool) (parts : List α) :
    total ((parts.filter p).map weight) + total ((parts.filter fun part ↦ !p part).map weight) =
      total (parts.map weight) := by
  induction parts with
  | nil => rfl
  | cons part rest ih =>
    rw [List.map_cons, total_cons, ← ih]
    by_cases hpart : p part = true
    · simp [hpart, Nat.add_assoc]
    · simp [hpart, Nat.add_left_comm]

/-- The parts under different labels of a node are different parts of it. -/
theorem Node.total_under_eq (n : Node) (weight : Field × Node → Nat) {fields : List Field}
    (hfields : fields.Nodup) :
    total (fields.map fun field ↦ total ((n.under field).map weight)) =
      total ((n.children.filter fun c ↦ fields.contains c.1).map weight) := by
  unfold under
  induction fields with
  | nil =>
    rw [List.filter_eq_nil_iff.mpr (by simp)]
    rfl
  | cons field rest ih =>
    obtain ⟨hnew, hrest⟩ := List.nodup_cons.mp hfields
    have hsplit := total_filter_add weight (fun c ↦ decide (c.1 = field))
      (n.children.filter fun c ↦ (field :: rest).contains c.1)
    have hhere : (n.children.filter fun c ↦ (field :: rest).contains c.1).filter
        (fun c ↦ decide (c.1 = field)) = n.children.filter fun c ↦ decide (c.1 = field) := by
      rw [List.filter_filter]
      apply List.filter_congr
      intro c _
      by_cases hc : c.1 = field <;> simp [hc]
    have hothers : (n.children.filter fun c ↦ (field :: rest).contains c.1).filter
        (fun c ↦ !decide (c.1 = field)) = n.children.filter fun c ↦ rest.contains c.1 := by
      rw [List.filter_filter]
      apply List.filter_congr
      intro c _
      by_cases hc : c.1 = field
      · simp [hc, hnew]
      · simp [hc]
    rw [hhere, hothers] at hsplit
    rw [List.map_cons, total_cons, ih hrest, hsplit]

theorem Node.total_under_le (n : Node) (weight : Field × Node → Nat) {fields : List Field}
    (hfields : fields.Nodup) :
    total (fields.map fun field ↦ total ((n.under field).map weight)) ≤
      total (n.children.map weight) := by
  rw [n.total_under_eq weight hfields,
    ← total_filter_add weight (fun c ↦ fields.contains c.1) n.children]
  exact Nat.le_add_right _ _

section Count

variable (p : Edge → Bool)

/-- How many edges of a tree have a property. -/
def Node.count (n : Node) : Nat :=
  n.edges.countP p

/-- How many edges have a property, of an edge and those below it. -/
def Edge.count (e : Edge) : Nat :=
  (e :: e.child.edges).countP p

/-- How many edges have a property, of those under one label of a node and those below them. -/
def Node.countUnder (n : Node) (field : Field) : Nat :=
  total ((n.under field).map fun c ↦ Edge.count p ⟨n, c.1, c.2⟩)

/-- The same for the items of a list of children. -/
def Edge.countItems (parent : Node) (field : Field) (items : List (Option Node)) : Nat :=
  total (items.filterMap fun item ↦ item.map fun child ↦ Edge.count p ⟨parent, field, child⟩)

@[simp]
theorem Edge.countItems_some (parent : Node) (field : Field) (n : Node)
    (rest : List (Option Node)) :
    countItems p parent field (some n :: rest) =
      Edge.count p ⟨parent, field, n⟩ + countItems p parent field rest := rfl

@[simp]
theorem Edge.countItems_none (parent : Node) (field : Field) (rest : List (Option Node)) :
    countItems p parent field (none :: rest) = countItems p parent field rest := rfl

theorem Edge.count_eq (e : Edge) : e.count p = e.child.count p + if p e then 1 else 0 :=
  List.countP_cons

theorem Edge.count_le (parent : Node) (field : Field) (n : Node) :
    n.count p ≤ Edge.count p ⟨parent, field, n⟩ := by
  rw [Edge.count_eq]
  exact Nat.le_add_right _ _

namespace Node

theorem count_eq (n : Node) :
    n.count p = total (n.children.map fun c ↦ Edge.count p ⟨n, c.1, c.2⟩) := by
  unfold count
  rw [edges_eq]
  induction n.children with
  | nil => rfl
  | cons c rest ih =>
    rw [List.flatMap_cons, List.countP_append, ih, List.map_cons, total_cons]
    rfl

theorem countUnder_fields_le (n : Node) (fields : List Field) (hfields : fields.Nodup) :
    total (fields.map (n.countUnder p)) ≤ n.count p := by
  rw [count_eq]
  exact n.total_under_le _ hfields

theorem countUnder_pair_le (n : Node) {first second : Field} (hne : first ≠ second) :
    n.countUnder p first + n.countUnder p second ≤ n.count p := by
  have hfields := n.countUnder_fields_le p [first, second] (by simpa using hne)
  simpa only [List.map_cons, List.map_nil, total_cons, total_nil, Nat.add_zero] using hfields

theorem countUnder_le (n : Node) (field : Field) : n.countUnder p field ≤ n.count p := by
  simpa using n.countUnder_fields_le p [field] (by simp)

theorem count_le_countUnder {n child : Node} {field : Field}
    (h : (field, some child) ∈ n.branches) :
    Edge.count p ⟨n, field, child⟩ ≤ n.countUnder p field := by
  apply le_total_of_mem
  refine List.mem_map.mpr ⟨(field, child), ?_, rfl⟩
  exact mem_under_iff.mpr ⟨mem_children_iff.mpr h, rfl⟩

/-- The items of a list of children are what stands under its label. -/
theorem countUnder_eq_items (n : Node) (field : Field) :
    n.countUnder p field = Edge.countItems p n field (n.items field) := by
  have hbranches (branches : List (Field × Option Node)) :
      ((branches.filterMap fun b ↦ b.2.map (b.1, ·)).filter fun c ↦ c.1 = field).map
          (fun c ↦ Edge.count p ⟨n, c.1, c.2⟩) =
        (branches.filterMap fun b ↦ if b.1 = field then some b.2 else none).filterMap
          fun item ↦ item.map fun child ↦ Edge.count p ⟨n, field, child⟩ := by
    induction branches with
    | nil => rfl
    | cons branch rest ih =>
      rcases branch with ⟨place, child⟩
      by_cases hplace : place = field <;> cases child <;> simp_all
  unfold countUnder under children items Edge.countItems
  rw [hbranches]

end Node

end Count

namespace Sample

def name (index : Nat) (text : String) : Node :=
  .mk { id := ⟨index, false⟩, kind := some .identifier, name := some text } []

def node (index : Nat) (kind : Kind) (branches : List (Field × Option Node)) : Node :=
  .mk { id := ⟨index, false⟩, kind := some kind } branches

end Sample

end Relabel
