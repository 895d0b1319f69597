import Relabel.Proofs.Scope.Sketch

/-!
# Trees without shared nodes

The nodes of a program are reached by one path each, apart from what the grammar writes once and
means twice: `import { a }` and `export { a }` have one identifier as the local and the outer name,
and a shorthand property has one identifier as key and value. In such a tree the identifiers that
may stand for variables are all different. The only keys that edits replace are then keys that name
properties, provided that no such key is computed.
-/

namespace Relabel

namespace Edge

/-- Whether the child is also the child under another label. -/
def isAlso (e : Edge) (field : Field) : Bool :=
  (e.parent.child? field).any (·.id == e.child.id)

/-- A second path to an identifier that the grammar writes once. -/
def isLent (e : Edge) : Bool :=
  match e.parent.kind, e.field with
  | some .importSpecifier, .imported => e.isAlso .localName
  | some .exportSpecifier, .exported => e.isAlso .localName
  | some .property, .key => e.parent.head.shorthand && Edits.sharesKey e.parent
  | _, _ => false

/-- A first path to a node with an identity. -/
def leadsTo (x : NodeId) (e : Edge) : Bool :=
  !e.isLent && e.child.id == x

end Edge

namespace Node

/-- Nodes with one identity are one node, and there is one path to each, apart from the paths that
the grammar lends. What is below a node that is reached twice is reached twice as well. -/
structure Unshared (tree : Node) : Prop where
  identity : ∀ m ∈ tree.nodes, ∀ n ∈ tree.nodes, m.id = n.id → m = n
  distinct : ((tree.edges.filter fun e ↦ !e.isLent).map (·.child.id)).Nodup

/-- A key that is also the value of its shorthand property is not computed. -/
def NamesKeys (tree : Node) : Prop :=
  ∀ n ∈ tree.nodes, n.kind = some .property → n.head.shorthand = true →
    Edits.sharesKey n = true → n.head.computed = false

instance (tree : Node) : Decidable tree.NamesKeys :=
  inferInstanceAs (Decidable (∀ n ∈ tree.nodes, n.kind = some .property →
    n.head.shorthand = true → Edits.sharesKey n = true → n.head.computed = false))

theorem mem_edges_iff {tree : Node} {e : Edge} :
    e ∈ tree.edges ↔ e.parent ∈ tree.nodes ∧ (e.field, some e.child) ∈ e.parent.branches := by
  induction tree using Node.induction with
  | step tree ih =>
    rw [edges_eq, List.mem_flatMap, mem_nodes_iff]
    constructor
    · rintro ⟨⟨field, child⟩, hchild, hmem⟩
      rw [mem_children_iff] at hchild
      rcases List.mem_cons.mp hmem with rfl | hmem
      · exact ⟨.inl rfl, hchild⟩
      · have hbelow := (ih field child hchild).mp hmem
        exact ⟨.inr ⟨field, child, hchild, hbelow.1⟩, hbelow.2⟩
    · rintro ⟨hparent | ⟨field, child, hchild, hparent⟩, hbranch⟩
      · rw [hparent] at hbranch
        refine ⟨(e.field, e.child), mem_children_iff.mpr hbranch, ?_⟩
        rw [← hparent]
        exact List.mem_cons_self
      · refine ⟨(field, child), mem_children_iff.mpr hchild, List.mem_cons_of_mem _ ?_⟩
        exact (ih field child hchild).mpr ⟨hparent, hbranch⟩

theorem count_le_of_mem_nodes (p : Edge → Bool) {tree n : Node} (h : n ∈ tree.nodes) :
    n.count p ≤ tree.count p := by
  induction tree using Node.induction with
  | step tree ih =>
    rcases mem_nodes_iff.mp h with rfl | ⟨field, child, hchild, hn⟩
    · exact Nat.le_refl _
    · calc
        n.count p ≤ child.count p := ih field child hchild hn
        _ ≤ Edge.count p ⟨tree, field, child⟩ := Edge.count_le p tree field child
        _ ≤ tree.countUnder p field := count_le_countUnder p hchild
        _ ≤ tree.count p := tree.countUnder_le p field

theorem count_pos_of_mem_branches (p : Edge → Bool) {n child : Node} {field : Field}
    (h : (field, some child) ∈ n.branches) (hp : p ⟨n, field, child⟩ = true) : 0 < n.count p := by
  apply List.countP_pos_iff.mpr
  exact ⟨⟨n, field, child⟩, mem_edges_iff.mpr ⟨n.mem_nodes_self, h⟩, hp⟩

namespace Unshared

variable {tree : Node}

theorem count_le_one (h : tree.Unshared) (x : NodeId) : tree.count (Edge.leadsTo x) ≤ 1 := by
  have hcount := List.nodup_iff_count.mp h.distinct x
  rw [List.count, List.countP_map, List.countP_filter] at hcount
  calc
    tree.count (Edge.leadsTo x) =
        tree.edges.countP fun e ↦ ((· == x) ∘ fun e : Edge ↦ e.child.id) e && !e.isLent := by
      unfold count
      congr 1
      funext e
      exact Bool.and_comm _ _
    _ ≤ 1 := hcount

/-- The key and the value of a node do not both lead to one node. -/
theorem key_add_value_le_one (h : tree.Unshared) {n key value : Node} (hn : n ∈ tree.nodes)
    (hkey : n.child? .key = some key) (hvalue : n.child? .value = some value) (x : NodeId) :
    Edge.count (Edge.leadsTo x) ⟨n, .key, key⟩ + Edge.count (Edge.leadsTo x) ⟨n, .value, value⟩ ≤
      1 := by
  have hboth := n.countUnder_pair_le (Edge.leadsTo x) (by decide : Field.key ≠ .value)
  have hunderKey := count_le_countUnder (Edge.leadsTo x) (mem_branches_of_child? hkey)
  have hunderValue := count_le_countUnder (Edge.leadsTo x) (mem_branches_of_child? hvalue)
  have hpart := count_le_of_mem_nodes (Edge.leadsTo x) hn
  have hwhole := h.count_le_one x
  omega

theorem not_isVariable_of_isLent (hkeys : tree.NamesKeys) {e : Edge} (he : e ∈ tree.edges)
    (hlent : e.isLent = true) : e.isVariable = false := by
  obtain ⟨hparent, -⟩ := mem_edges_iff.mp he
  have hname : Task.isPropertyName e.parent e.field = true ∧
      e.parent.hasKind .metaProperty = false := by
    unfold Edge.isLent at hlent
    split at hlent
    · rename_i hkind hfield
      simp [Task.isPropertyName, Node.hasKind, hkind, hfield]
    · rename_i hkind hfield
      simp [Task.isPropertyName, Node.hasKind, hkind, hfield]
    · rename_i hkind hfield
      rw [Bool.and_eq_true] at hlent
      have hcomputed := hkeys e.parent hparent hkind hlent.1 hlent.2
      simp [Task.isPropertyName, Node.hasKind, hkind, hfield, hcomputed]
    · exact absurd hlent (by simp)
  simp [Edge.isVariable, hname]

theorem nodup_variableIds (h : tree.Unshared) (hkeys : tree.NamesKeys) :
    tree.variableIds.Nodup := by
  have hfilter : tree.edges.filter Edge.isVariable =
      (tree.edges.filter fun e ↦ !e.isLent).filter Edge.isVariable := by
    rw [List.filter_filter]
    apply List.filter_congr
    intro e he
    cases hlent : e.isLent with
    | false => simp
    | true => simp [not_isVariable_of_isLent hkeys he hlent]
  rw [variableIds, hfilter]
  exact h.distinct.sublist (List.filter_sublist.map _)

end Unshared

/-! ## The keys of shorthand properties -/

theorem leadsTo_of_ne_key {n child : Node} {field : Field} (himported : field ≠ .imported)
    (hexported : field ≠ .exported) (hkey : field ≠ .key ∨ n.kind ≠ some .property) :
    Edge.leadsTo child.id ⟨n, field, child⟩ = true := by
  have hlent : (Edge.mk n field child).isLent = false := by
    unfold Edge.isLent
    split <;> simp_all
  simp [Edge.leadsTo, hlent]

/-- The node that a property has as its key, and as its value or the target of its value. -/
theorem sharesKey_iff {n : Node} :
    Edits.sharesKey n = true ↔ ∃ key value, n.child? .key = some key ∧
      n.child? .value = some value ∧ (key.id = value.id ∨ value.kind = some .assignmentPattern ∧
        ∃ target, value.child? .left = some target ∧ target.id = key.id) := by
  unfold Edits.sharesKey
  cases n.child? .key with
  | none => simp
  | some key =>
    cases n.child? .value with
    | none => simp
    | some value => simp [Node.hasKind, Option.any_eq_true]

/-- The value of a property, from the outside in, up to an identifier that it carries. -/
theorem Carries.eq_or_left {property value n : Node} (h : property.Carries n)
    (hvalue : property.child? .value = some value) :
    value = n ∨ ∃ inner, value.child? .left = some inner ∧
      (inner = n ∨ ∃ deeper, inner.child? .left = some deeper) := by
  induction h with
  | value hn => exact .inl (Option.some.inj (hvalue.symm.trans hn))
  | target _ _ hinner ih =>
    rcases ih with rfl | ⟨outer, houter, rfl | hdeeper⟩
    · exact .inr ⟨_, hinner, .inl rfl⟩
    · exact .inr ⟨outer, houter, .inr ⟨_, hinner⟩⟩
    · exact .inr ⟨outer, houter, .inr hdeeper⟩

namespace Unshared

variable {tree n : Node}

/-- Only a property has its key in two places. -/
theorem kind_eq_property (h : tree.Unshared) (hn : n ∈ tree.nodes)
    (hshares : Edits.sharesKey n = true) : n.kind = some .property := by
  obtain ⟨key, value, hkey, hvalue, hshared⟩ := sharesKey_iff.mp hshares
  by_contra hkind
  -- Elsewhere the key is not lent, so its node would be reached through the key and the value.
  have hkeyPath : 0 < Edge.count (Edge.leadsTo key.id) ⟨n, .key, key⟩ := by
    rw [Edge.count_eq, leadsTo_of_ne_key (by decide) (by decide) (.inr hkind)]
    exact Nat.succ_pos _
  have hvaluePath : 0 < Edge.count (Edge.leadsTo key.id) ⟨n, .value, value⟩ := by
    rcases hshared with hsame | ⟨-, target, htarget, hsame⟩
    · rw [hsame, Edge.count_eq, leadsTo_of_ne_key (by decide) (by decide) (.inl (by decide))]
      exact Nat.succ_pos _
    · have hleft := count_pos_of_mem_branches (Edge.leadsTo target.id)
        (mem_branches_of_child? htarget)
        (leadsTo_of_ne_key (by decide) (by decide) (.inl (by decide)))
      rw [← hsame]
      exact Nat.lt_of_lt_of_le hleft (Edge.count_le _ n .value value)
  have hpaths := h.key_add_value_le_one hn hkey hvalue key.id
  omega

/-- Nothing stands below a key that is also found in the value. -/
theorem left_key_eq_none (h : tree.Unshared) {key value : Node} (hn : n ∈ tree.nodes)
    (hkey : n.child? .key = some key) (hvalue : n.child? .value = some value)
    (hmem : key ∈ value.nodes) : key.child? .left = none := by
  by_contra hsome
  obtain ⟨child, hchild⟩ := Option.ne_none_iff_exists'.mp hsome
  have hbelow : 0 < key.count (Edge.leadsTo child.id) :=
    count_pos_of_mem_branches _ (mem_branches_of_child? hchild)
      (leadsTo_of_ne_key (by decide) (by decide) (.inl (by decide)))
  have hkeyPath := Edge.count_le (Edge.leadsTo child.id) n .key key
  have hvaluePath := Edge.count_le (Edge.leadsTo child.id) n .value value
  have hinside := count_le_of_mem_nodes (Edge.leadsTo child.id) hmem
  have hpaths := h.key_add_value_le_one hn hkey hvalue child.id
  omega

/-- A key that is also found in a value that carries an identifier is that identifier. -/
theorem isIdentifier_key (h : tree.Unshared) (hn : n ∈ tree.nodes)
    (hshares : Edits.sharesKey n = true) {identifier : Node}
    (hidentifier : identifier.isIdentifier = true) (hcarries : n.Carries identifier) {key : Node}
    (hkey : n.child? .key = some key) : key.isIdentifier = true := by
  obtain ⟨key', value, hkey', hvalue, hshared⟩ := sharesKey_iff.mp hshares
  obtain rfl : key = key' := Option.some.inj (hkey.symm.trans hkey')
  have hkeyMem := mem_nodes_of_mem_branches hn (mem_branches_of_child? hkey)
  have hvalueMem := mem_nodes_of_mem_branches hn (mem_branches_of_child? hvalue)
  rcases hshared with hsame | ⟨hkind, target, htarget, hsame⟩
  · obtain rfl : key = value := h.identity key hkeyMem value hvalueMem hsame
    have hleft := h.left_key_eq_none hn hkey hvalue key.mem_nodes_self
    rcases hcarries.eq_or_left hvalue with rfl | ⟨inner, hinner, -⟩
    · exact hidentifier
    · exact absurd (hleft.symm.trans hinner) (by simp)
  · have htargetMem := mem_nodes_of_mem_branches hvalueMem (mem_branches_of_child? htarget)
    obtain rfl : target = key := h.identity target htargetMem key hkeyMem hsame
    have hinside := mem_nodes_of_mem_branches value.mem_nodes_self (mem_branches_of_child? htarget)
    have hleft := h.left_key_eq_none hn hkey hvalue hinside
    rcases hcarries.eq_or_left hvalue with rfl | ⟨inner, hinner, hcarried⟩
    · rw [isIdentifier_iff, hkind] at hidentifier
      exact absurd hidentifier (by decide)
    · obtain rfl : target = inner := Option.some.inj (htarget.symm.trans hinner)
      rcases hcarried with rfl | ⟨deeper, hdeeper⟩
      · exact hidentifier
      · exact absurd (hleft.symm.trans hdeeper) (by simp)

end Unshared

end Node

/-- A key was put in only where a shorthand property has its key also in its value, which carries an
identifier. -/
def Edits.Justified (R : Node → Prop) (e : Edits) : Prop :=
  ∀ x name, e.writtenOut.get? x = some (some name) →
    ∃ property, R property ∧ property.id = x ∧ property.head.shorthand = true ∧
      Edits.sharesKey property = true ∧
      ∃ identifier : Node, identifier.isIdentifier = true ∧ property.Carries identifier

theorem Edits.justified_empty (R : Node → Prop) : Edits.Justified R {} := by
  intro x name hname
  simp [Table.get?_empty] at hname

theorem Edits.Justified.writeOut {R : Node → Prop} {e : Edits} (h : e.Justified R) {site : Site}
    (hsite : site.Sound R) {property : Node} (howner : site.owner = some property)
    (name : String) : (e.writeOut property name).Justified R := by
  unfold Edits.writeOut
  split
  · exact h
  · intro x key hkey
    rw [Table.get?_set] at hkey
    by_cases hx : property.id = x
    · rw [if_pos hx] at hkey
      by_cases hshares : Edits.sharesKey property = true
      · obtain ⟨hmem, hshorthand, hcarries⟩ := hsite.owned property howner
        exact ⟨property, hmem, hx, hshorthand, hshares, site.identifier, hsite.isIdentifier,
          hcarries⟩
      · simp [hshares] at hkey
    · rw [if_neg hx] at hkey
      exact h x key hkey

theorem Edits.Justified.respellSites {R : Node → Prop} {e : Edits} (h : e.Justified R)
    {b : Binding} (hsites : ∀ site ∈ b.sites, site.Sound R) (name : String) :
    (Store.respellSites b name e).Justified R := by
  rw [Store.respellSites_eq]
  generalize b.sites = sites at hsites ⊢
  induction sites generalizing e with
  | nil => exact h
  | cons site rest ih =>
    apply ih _ fun other hother ↦ hsites other (List.mem_cons_of_mem site hother)
    have hsite := hsites site List.mem_cons_self
    unfold Store.respellSite
    cases howner : site.owner with
    | none => exact h
    | some property =>
      by_cases hrenamed : b.renamed = true
      · simp only [hrenamed, if_true]
        exact h
      · simp only [hrenamed]
        exact h.writeOut hsite howner b.name

/-- In a tree without shared nodes, justified edits replace only keys that name properties. -/
theorem Edits.Justified.respects {tree : Node} {e : Edits} (h : e.Justified (· ∈ tree.nodes))
    (hunshared : tree.Unshared) (hkeys : tree.NamesKeys) : e.Respects (· ∈ tree.nodes) := by
  intro n hn name hname
  obtain ⟨property, hmem, hid, hshorthand, hshares, identifier, hidentifier, hcarries⟩ :=
    h n.id name hname
  obtain rfl : property = n := hunshared.identity property hmem n hn hid
  have hkind := hunshared.kind_eq_property hmem hshares
  refine ⟨hkind, hkeys property hmem hkind hshorthand hshares, fun key hkey ↦ ?_⟩
  exact hunshared.isIdentifier_key hmem hshares hidentifier hcarries hkey

namespace Store

/-- Every site of a binding has a property. -/
def EachSite (s : Store) (Q : Site → Prop) : Prop :=
  ∀ (id : BindingId) (b : Binding), s.bindings[id]? = some b → ∀ site ∈ b.sites, Q site

variable {s : Store} {Q : Site → Prop}

theorem EachSite.learn (h : s.EachSite Q) (hs : s.Consistent []) {fact : Fact}
    (hfact : ∀ site ∈ fact.sites, Q site) : (s.learn fact).EachSite Q := by
  cases fact with
  | declared target kind site =>
    intro id b hb other hother
    simp only [Store.learn, getElem?_bindings_declare hs] at hb
    split at hb
    · obtain rfl := Option.some.inj hb
      rcases mem_sites_declaredBinding hother with rfl | ⟨old, hold, hother⟩
      · exact hfact other (by simp [Fact.sites])
      · exact h _ old hold other hother
    · exact h id b hb other hother
  | _ => exact h

theorem EachSite.foldl_learn (h : s.EachSite Q) (hs : s.Consistent []) {facts : List Fact}
    (hfit : Fact.Fit s facts) (hfacts : ∀ fact ∈ facts, ∀ site ∈ fact.sites, Q site) :
    (facts.foldl Store.learn s).EachSite Q := by
  induction facts generalizing s with
  | nil => exact h
  | cons fact rest ih =>
    exact ih (h.learn hs (hfacts fact List.mem_cons_self)) (hs.learn hfit.1) hfit.2
      fun other hother ↦ hfacts other (List.mem_cons_of_mem fact hother)

theorem EachSite.foldl_resolve (h : s.EachSite Q) {sites : List Site}
    (hsites : ∀ site ∈ sites, Q site) : (sites.foldl Store.resolve s).EachSite Q := by
  induction sites generalizing s with
  | nil => exact h
  | cons site rest ih =>
    apply ih _ fun other hother ↦ hsites other (List.mem_cons_of_mem site hother)
    intro id b hb other hother
    rw [getElem?_bindings_resolve] at hb
    obtain ⟨old, hold, rfl⟩ := Option.map_eq_some_iff.mp hb
    by_cases hfound : s.lookup? site.scope site.name = some id
    · simp only [hfound, if_true, Binding.sites, List.mem_append, List.mem_singleton] at hother
      rcases hother with hother | hother | rfl
      · exact h id old hold other (List.mem_append_left _ hother)
      · exact h id old hold other (List.mem_append_right _ hother)
      · exact hsites other List.mem_cons_self
    · rw [if_neg hfound] at hother
      exact h id old hold other hother

theorem eachSite_ofFacts {facts : List Fact} (hfit : Fact.Fit {} facts)
    (hfacts : ∀ fact ∈ facts, ∀ site ∈ fact.sites, Q site) : (ofFacts facts).EachSite Q := by
  have hempty : ({} : Store).EachSite Q := by
    intro id b hb
    simp at hb
  apply (hempty.foldl_learn consistent_empty hfit hfacts).foldl_resolve
  intro site hsite
  obtain ⟨fact, hfact, hreferred⟩ := List.mem_filterMap.mp hsite
  cases fact with
  | referred other =>
    obtain rfl := Option.some.inj hreferred
    exact hfacts _ hfact other (by simp [Fact.sites])
  | _ => simp at hreferred

theorem EachSite.rekey (h : s.EachSite Q) (id : BindingId) (b : Binding) (name : String) :
    (s.rekey id b name).EachSite Q := by
  intro i c hc site hsite
  rw [getElem?_bindings_rekey] at hc
  by_cases hi : id = i
  · rw [if_pos hi] at hc
    obtain ⟨old, hold, rfl⟩ := Option.map_eq_some_iff.mp hc
    exact h i old hold site hsite
  · rw [if_neg hi] at hc
    exact h i c hc site hsite

end Store

end Relabel
