import Relabel.Proofs.Syntax.Subtree
import Relabel.Syntax.Edit
import Relabel.Syntax.Query
import Relabel.Syntax.Walk

/-!
# Edited trees

How a tree looks after edits: every node keeps its identity and its kind, and its parts are the
edited parts of the node. The one exception is the key of a property that was written out with a
new key.
-/

namespace Relabel.Edits

variable (e : Edits) (n : Node)

theorem apply_eq :
    e.apply n = .mk (e.applyHead n.head)
      (e.withKey n.id (n.branches.map fun b ↦ (b.1, b.2.map e.apply))) := by
  rw [apply, Node.fold_eq]

/-- No edits change nothing. -/
@[simp]
theorem apply_empty : ({} : Edits).apply n = n := by
  induction n using Node.induction with
  | step n ih =>
    have hbranch : ∀ b ∈ n.branches, (b.1, b.2.map ({} : Edits).apply) = b := by
      rintro ⟨field, child⟩ hmem
      cases child with
      | none => rfl
      | some child => rw [Option.map_some, ih field child hmem]
    rcases n with ⟨head, branches⟩
    rw [apply_eq, List.map_congr_left hbranch, List.map_id']
    simp [applyHead, spelling?, withKey, Table.contains, Table.get?, Node.head, Node.branches]

@[simp]
theorem head_apply : (e.apply n).head = e.applyHead n.head := by
  rw [apply_eq]
  rfl

@[simp]
theorem id_apply : (e.apply n).id = n.id := by
  rw [Node.id, head_apply]
  rfl

@[simp]
theorem kind_apply : (e.apply n).kind = n.kind := by
  rw [Node.kind, head_apply]
  rfl

@[simp]
theorem hasKind_apply (kind : Kind) : (e.apply n).hasKind kind = n.hasKind kind := by
  rw [Node.hasKind, kind_apply, Node.hasKind]

@[simp]
theorem isIdentifier_apply : (e.apply n).isIdentifier = n.isIdentifier :=
  e.hasKind_apply n .identifier

@[simp]
theorem isTyped_apply : (e.apply n).isTyped = n.isTyped := by
  simp [Node.isTyped]

/-- Only the keys of properties can be replaced. -/
theorem items_withKey (id : NodeId) (head : Head) (branches : List (Field × Option Node))
    {field : Field} (hfield : field ≠ .key) :
    (Node.mk head (e.withKey id branches)).items field = (Node.mk head branches).items field := by
  unfold withKey
  split
  · rename_i name _
    induction branches with
    | nil => rfl
    | cons branch rest ih =>
      simp only [Node.items, Node.branches, List.map_cons, List.filterMap_cons] at ih ⊢
      rw [ih]
      by_cases hkey : branch.1 = .key ∧ branch.2.isSome = true
      · simp [hkey, Ne.symm hfield]
      · simp [hkey]
  · rfl

theorem items_map (head head' : Head) (branches : List (Field × Option Node)) (field : Field) :
    (Node.mk head (branches.map fun b ↦ (b.1, b.2.map e.apply))).items field =
      ((Node.mk head' branches).items field).map (Option.map e.apply) := by
  simp only [Node.items, Node.branches, List.filterMap_map, List.map_filterMap]
  congr 1
  funext branch
  by_cases hbranch : branch.1 = field <;> simp [hbranch]

theorem items_apply {field : Field} (hfield : field ≠ .key) :
    (e.apply n).items field = (n.items field).map (Option.map e.apply) := by
  rcases n with ⟨head, branches⟩
  rw [apply_eq, items_withKey e _ _ _ hfield, items_map e _ head]
  rfl

theorem child?_apply {field : Field} (hfield : field ≠ .key) :
    (e.apply n).child? field = (n.child? field).map e.apply := by
  rw [Node.child?, items_apply e n hfield, List.head?_map, Node.child?]
  cases (n.items field).head? <;> rfl

theorem params_apply : (e.apply n).params = n.params.map (Option.map e.apply) :=
  e.items_apply n (by decide)

theorem statements_apply : (e.apply n).statements = n.statements.map (Option.map e.apply) := by
  unfold Node.statements
  rw [child?_apply e n (by decide)]
  cases n.child? .body with
  | none => rfl
  | some body =>
    simp only [Option.map_some, hasKind_apply]
    split
    · exact items_apply e body (by decide)
    · rfl

theorem soleReturn?_apply : (e.apply n).soleReturn? = n.soleReturn?.map e.apply := by
  unfold Node.soleReturn?
  rw [statements_apply]
  rcases n.statements with _ | ⟨_ | statement, _ | ⟨_, _⟩⟩
  case cons.some.nil =>
    simp only [List.map_cons, List.map_nil, Option.map_some, hasKind_apply]
    split
    · exact child?_apply e statement (by decide)
    · rfl
  all_goals rfl

/-- A node whose key was not replaced. -/
def KeepsKey : Prop :=
  ∀ name, e.writtenOut.get? n.id ≠ some (some name)

variable {e n}

theorem KeepsKey.branches_apply (h : e.KeepsKey n) :
    (e.apply n).branches = n.branches.map fun b ↦ (b.1, b.2.map e.apply) := by
  rw [apply_eq]
  simp only [Node.branches, withKey]
  split
  · rename_i name hname
    exact absurd hname (h name)
  · rfl

theorem KeepsKey.child?_apply (h : e.KeepsKey n) (field : Field) :
    (e.apply n).child? field = (n.child? field).map e.apply := by
  have hitems : (e.apply n).items field = (n.items field).map (Option.map e.apply) := by
    rw [Node.items, h.branches_apply]
    exact items_map e n.head n.head n.branches field
  rw [Node.child?, hitems, List.head?_map, Node.child?]
  cases (n.items field).head? <;> rfl

theorem KeepsKey.children_apply (h : e.KeepsKey n) :
    (e.apply n).children = n.children.map fun c ↦ (c.1, e.apply c.2) := by
  rw [Node.children, h.branches_apply, Node.children, List.filterMap_map, List.map_filterMap]
  congr 1
  funext branch
  cases hchild : branch.2 <;> simp [hchild]

/-- The nodes of an edited tree in which no key was replaced. -/
theorem nodes_apply (h : ∀ m ∈ n.nodes, e.KeepsKey m) : (e.apply n).nodes = n.nodes.map e.apply := by
  induction n using Node.induction with
  | step n ih =>
    have hbelow : ∀ c ∈ n.children, (e.apply c.2).nodes = c.2.nodes.map e.apply := by
      rintro ⟨field, child⟩ hchild
      have hbranch := Node.mem_children_iff.mp hchild
      exact ih field child hbranch fun m hm ↦
        h m (Node.mem_nodes_iff.mpr (.inr ⟨field, child, hbranch, hm⟩))
    rw [Node.nodes_eq, (h n n.mem_nodes_self).children_apply, List.flatMap_map, Node.nodes_eq n,
      List.map_cons, List.map_flatMap]
    exact congrArg (e.apply n :: ·.flatten) (List.map_congr_left hbelow)

/-- The new key takes the place of the old one. -/
theorem child?_key_apply {name : String} (h : e.writtenOut.get? n.id = some (some name)) :
    (e.apply n).child? .key = (n.child? .key).map fun _ ↦ e.newKey n.id name := by
  have hbranches (head : Head) (branches : List (Field × Option Node)) :
      (Node.mk head ((branches.map fun b ↦ (b.1, b.2.map e.apply)).map fun branch ↦
          if branch.1 = .key ∧ branch.2.isSome = true then (.key, some (e.newKey n.id name))
          else branch)).child? .key =
        ((Node.mk head branches).child? .key).map fun _ ↦ e.newKey n.id name := by
    induction branches with
    | nil => rfl
    | cons branch rest ih =>
      rcases branch with ⟨field, child⟩
      rw [List.map_cons, List.map_cons, Node.child?_cons, Node.child?_cons, ih]
      by_cases hfield : field = .key
      · cases child <;> simp [hfield]
      · simp [hfield]
  rcases n with ⟨head, branches⟩
  rw [apply_eq]
  simp only [withKey, h]
  exact hbranches _ branches

/-! ## Walking an edited tree -/

variable (e n)

theorem applyHead_applyHead (head : Head) : e.applyHead (e.applyHead head) = e.applyHead head := by
  simp only [applyHead, spelling?]
  cases e.spellings.get? head.id <;> simp

@[simp]
theorem look_empty : ({} : Edits).look n = n := by
  rcases n with ⟨head, branches⟩
  simp [look, applyHead, spelling?, withKey, Table.contains, Table.get?, Node.head, Node.branches]

/-- A new key is as the edits leave it. -/
theorem apply_newKey (id : NodeId) (name : String) :
    e.apply (e.newKey id name) = e.newKey id name := by
  have hbare (id : NodeId) : e.withKey id [] = [] := by
    unfold withKey
    split <;> rfl
  rw [apply_eq]
  simp only [newKey, Node.head, Node.branches, List.map_nil, hbare, applyHead_applyHead]

theorem branches_apply :
    (e.apply n).branches = (e.look n).branches.map fun b ↦ (b.1, b.2.map e.apply) := by
  rw [apply_eq]
  simp only [look, Node.branches, withKey]
  split
  · rw [List.map_map, List.map_map]
    apply List.map_congr_left
    rintro ⟨field, child⟩ -
    by_cases hfield : field = .key <;> cases child <;> simp [hfield, apply_newKey]
  · rfl

/-- The children to be visited below an edited node. -/
theorem children_apply :
    (e.apply n).children = (e.look n).children.map fun c ↦ (c.1, e.apply c.2) := by
  rw [Node.children, branches_apply, Node.children, List.filterMap_map, List.map_filterMap]
  congr 1
  funext branch
  cases hchild : branch.2 <;> simp [hchild]

/-- A branch as the edits leave it. -/
def editedBranch (branch : Field × Option Node) : Field × Option Node :=
  match e.writtenOut.get? n.id with
  | some (some text) =>
    if branch.1 = .key ∧ branch.2.isSome then (.key, some (e.newKey n.id text))
    else (branch.1, branch.2.map e.apply)
  | _ => (branch.1, branch.2.map e.apply)

theorem branches_apply_eq_map : (e.apply n).branches = n.branches.map (e.editedBranch n) := by
  rw [apply_eq]
  simp only [Node.branches, withKey]
  split
  · rename_i text htext
    rw [List.map_map]
    apply List.map_congr_left
    rintro ⟨field, child⟩ -
    simp [editedBranch, htext]
  · rename_i hkept
    apply List.map_congr_left
    rintro ⟨field, child⟩ -
    unfold editedBranch
    split
    · rename_i text htext
      exact absurd htext (hkept text)
    · rfl

variable {e n}

/-- What stands below an edited node is an edited node or a new key. -/
theorem mem_branches_apply {field : Field} {child : Node}
    (h : (field, some child) ∈ (e.apply n).branches) :
    (∃ m, (field, some m) ∈ n.branches ∧ child = e.apply m) ∨
      ∃ text, field = .key ∧ e.writtenOut.get? n.id = some (some text) ∧
        child = e.newKey n.id text := by
  rw [branches_apply_eq_map] at h
  obtain ⟨⟨place, part⟩, hpart, hbranch⟩ := List.mem_map.mp h
  have hedited (hsame : (place, part.map e.apply) = (field, some child)) :
      ∃ m, (field, some m) ∈ n.branches ∧ child = e.apply m := by
    obtain ⟨rfl, hchild⟩ := Prod.mk.inj hsame
    obtain ⟨m, rfl, rfl⟩ := Option.map_eq_some_iff.mp hchild
    exact ⟨m, hpart, rfl⟩
  unfold editedBranch at hbranch
  split at hbranch
  · rename_i text htext
    split at hbranch
    · obtain ⟨hfield, hchild⟩ := Prod.mk.inj hbranch
      exact .inr ⟨text, hfield.symm, htext, (Option.some.inj hchild).symm⟩
    · exact .inl (hedited hbranch)
  · exact .inl (hedited hbranch)

theorem isTyped_of_mem_nodes_apply (h : ∀ m ∈ n.nodes, m.isTyped = true) :
    ∀ m ∈ (e.apply n).nodes, m.isTyped = true := by
  induction n using Node.induction with
  | step n ih =>
    intro m hm
    rcases Node.mem_nodes_iff.mp hm with rfl | ⟨field, child, hchild, hm⟩
    · rw [isTyped_apply]
      exact h n n.mem_nodes_self
    · rcases mem_branches_apply hchild with ⟨part, hpart, rfl⟩ | ⟨text, -, -, rfl⟩
      · refine ih field part hpart (fun k hk ↦ h k ?_) m hm
        exact Node.mem_nodes_iff.mpr (.inr ⟨field, part, hpart, hk⟩)
      · rcases Node.mem_nodes_iff.mp hm with rfl | ⟨_, _, hnone, -⟩
        · rfl
        · exact absurd hnone List.not_mem_nil

/-- A node that the edits make of a node of a tree. -/
def Shows (e : Edits) (tree n : Node) : Prop :=
  ∃ m ∈ tree.nodes, e.apply m = n

/-- Without edits these are the nodes of the tree. -/
theorem shows_empty_iff {tree n : Node} : ({} : Edits).Shows tree n ↔ n ∈ tree.nodes := by
  simp only [Shows, apply_empty, exists_eq_right]

namespace Shows

variable {tree : Node}

theorem item (h : e.Shows tree n) {field : Field} (hfield : field ≠ .key) {child : Node}
    (hchild : some child ∈ n.items field) : e.Shows tree child := by
  obtain ⟨m, hm, rfl⟩ := h
  rw [items_apply _ _ hfield] at hchild
  obtain ⟨part, hpart, hsame⟩ := List.mem_map.mp hchild
  obtain ⟨part, rfl, rfl⟩ := Option.map_eq_some_iff.mp hsame
  exact ⟨part, Node.mem_nodes_of_mem_branches hm (Node.mem_items_iff.mp hpart), rfl⟩

theorem child? (h : e.Shows tree n) {field : Field} (hfield : field ≠ .key) {child : Node}
    (hchild : n.child? field = some child) : e.Shows tree child :=
  h.item hfield (Node.mem_items_iff.mpr (Node.mem_branches_of_child? hchild))

theorem statement (h : e.Shows tree n) {statement : Node}
    (hstatement : some statement ∈ n.statements) : e.Shows tree statement := by
  unfold Node.statements at hstatement
  split at hstatement
  · rename_i body hbody
    split at hstatement
    · exact (h.child? (by decide) hbody).item (by decide) hstatement
    · exact absurd hstatement List.not_mem_nil
  · exact absurd hstatement List.not_mem_nil

theorem soleReturn? (h : e.Shows tree n) {argument : Node}
    (hargument : n.soleReturn? = some argument) : e.Shows tree argument := by
  unfold Node.soleReturn? at hargument
  split at hargument
  · rename_i statement hstatements
    split at hargument
    · refine (h.statement ?_).child? (by decide) hargument
      rw [hstatements]
      exact List.mem_singleton_self _
    · exact absurd hargument (by simp)
  · exact absurd hargument (by simp)

end Shows

end Relabel.Edits
