import Relabel.Proofs.Scope.Sharing

/-!
# What a shorthand property carries

The value of a property leads, through the targets of values with a default, to at most one
identifier. If this identifier stands for a variable at one place only, a property that has its key
in two places has the identifier as its key.
-/

namespace Relabel.Node

/-- A node leads to another one through targets of values with a default. -/
inductive Targets : Node → Node → Prop
  | refl (n : Node) : Targets n n
  | left {n inner target : Node} : n.kind = some .assignmentPattern →
    n.child? .left = some inner → Targets inner target → Targets n target

variable {tree p m n value key : Node}

theorem Targets.trans_left {inner : Node} (h : m.Targets n)
    (hkind : n.kind = some .assignmentPattern) (hinner : n.child? .left = some inner) :
    m.Targets inner := by
  induction h with
  | refl n => exact .left hkind hinner (.refl inner)
  | left houter hchild _ ih => exact .left houter hchild (ih hkind hinner)

/-- An identifier leads no further. -/
theorem Targets.eq_of_isIdentifier (h : m.Targets n) (hm : m.isIdentifier = true) : m = n := by
  cases h with
  | refl => rfl
  | left hkind =>
    rw [isIdentifier_iff, hkind] at hm
    exact absurd hm (by decide)

theorem Carries.targets (h : p.Carries n) (hvalue : p.child? .value = some value) :
    value.Targets n := by
  induction h with
  | value hn =>
    obtain rfl := Option.some.inj (hvalue.symm.trans hn)
    exact .refl value
  | target _ hkind hinner ih => exact ih.trans_left hkind hinner

theorem Carries.targets_of_isIdentifier (hm : p.Carries m) (hn : p.Carries n)
    (hidentifier : n.isIdentifier = true) : m.Targets n := by
  induction hm with
  | value hvalue => exact hn.targets hvalue
  | target _ hkind hinner ih =>
    cases ih with
    | refl =>
      rw [isIdentifier_iff, hkind] at hidentifier
      exact absurd hidentifier (by decide)
    | left _ hchild htargets =>
      obtain rfl := Option.some.inj (hinner.symm.trans hchild)
      exact htargets

/-- A property carries one identifier. -/
theorem Carries.eq_of_isIdentifier (hm : p.Carries m) (hn : p.Carries n)
    (hidentifier : m.isIdentifier = true) (hidentifier' : n.isIdentifier = true) : m = n :=
  (hm.targets_of_isIdentifier hn hidentifier').eq_of_isIdentifier hidentifier

/-- What is counted below a key and below a value is counted below the node. -/
theorem count_key_add_value_le (f : Edge → Bool) (hp : p ∈ tree.nodes)
    (hkey : p.child? .key = some key) (hvalue : p.child? .value = some value) :
    key.count f + value.count f ≤ tree.count f := by
  have hboth := p.countUnder_pair_le f (by decide : Field.key ≠ .value)
  have hunderKey := count_le_countUnder f (mem_branches_of_child? hkey)
  have hunderValue := count_le_countUnder f (mem_branches_of_child? hvalue)
  have hkeyEdge := Edge.count_le f p .key key
  have hvalueEdge := Edge.count_le f p .value value
  have hpart := count_le_of_mem_nodes f hp
  omega

/-- An identifier that a node leads to, but is not, stands for a variable below the node. -/
theorem Targets.count_pos (h : m.Targets n) (hidentifier : n.isIdentifier = true) (hne : m ≠ n) :
    0 < m.count (Edge.names n.id) := by
  induction h with
  | refl => exact absurd rfl hne
  | @left m inner n hkind hchild htargets ih =>
    have hbranch := mem_branches_of_child? hchild
    by_cases hinner : inner = n
    · subst hinner
      apply count_pos_of_mem_branches _ hbranch
      rw [Edge.names, Edge.isVariable_of_holdsNames hidentifier rfl, beq_self_eq_true,
        Bool.true_and]
    · calc
        0 < inner.count (Edge.names n.id) := ih hidentifier hinner
        _ ≤ m.count (Edge.names n.id) :=
          count_le_of_mem_nodes _ (mem_nodes_of_mem_branches m.mem_nodes_self hbranch)

/-- A key in two places is the identifier that the property carries. -/
theorem Carries.key_eq (hcarries : p.Carries n) (hidentifier : n.isIdentifier = true)
    (honce : tree.variableIds.count n.id ≤ 1)
    (hidentity : ∀ m ∈ tree.nodes, ∀ n ∈ tree.nodes, m.id = n.id → m = n) (hp : p ∈ tree.nodes)
    (hshares : Edits.sharesKey p = true) : p.child? .key = some n := by
  obtain ⟨key, value, hkey, hvalue, hshared⟩ := sharesKey_iff.mp hshares
  have hkeyMem := mem_nodes_of_mem_branches hp (mem_branches_of_child? hkey)
  have hvalueMem := mem_nodes_of_mem_branches hp (mem_branches_of_child? hvalue)
  have hpaths := count_key_add_value_le (Edge.names n.id) hp hkey hvalue
  rw [tree.count_variableIds] at honce
  have htargets := hcarries.targets hvalue
  -- Otherwise the identifier would stand for a variable below the key and below the value.
  rw [hkey, Option.some.injEq]
  by_contra hne
  rcases hshared with hsame | ⟨hpattern, target, htarget, hsame⟩
  · obtain rfl := hidentity key hkeyMem value hvalueMem hsame
    have hbelow := htargets.count_pos hidentifier hne
    omega
  · have hinside := mem_nodes_of_mem_branches value.mem_nodes_self (mem_branches_of_child? htarget)
    have htargetMem := mem_nodes_of_mem_branches hvalueMem (mem_branches_of_child? htarget)
    obtain rfl := hidentity target htargetMem key hkeyMem hsame
    have hmore := count_le_of_mem_nodes (Edge.names n.id) hinside
    cases htargets with
    | refl =>
      rw [isIdentifier_iff, hpattern] at hidentifier
      exact absurd hidentifier (by decide)
    | left _ hchild htargets =>
      obtain rfl := Option.some.inj (htarget.symm.trans hchild)
      have hbelow := htargets.count_pos hidentifier hne
      omega

end Relabel.Node
