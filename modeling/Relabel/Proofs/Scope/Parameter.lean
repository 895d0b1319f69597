import Relabel.Proofs.Scope.Occurrence

/-!
# The parameters of functions

A function binds its parameters in its own scope, so no other function has their bindings. A
declared function is bound in a scope around it. Its binding is therefore that of a parameter only
if the parameter belongs to a function around it, with which the declaration is merged.
-/

namespace Relabel

open Lexical (Mark)

namespace Standing

variable {c d : Standing} {n m : Node}

theorem exists_reaches (h : m ∈ n.nodes) (c : Standing) : ∃ d, c.Reaches n d m := by
  induction n using Node.induction generalizing c with
  | step n ih =>
    rcases Node.mem_nodes_iff.mp h with rfl | ⟨field, child, hchild, hm⟩
    · exact ⟨c, .refl⟩
    · obtain ⟨d, hreaches⟩ := ih field child hchild hm (c.below n field child)
      exact ⟨d, hreaches.above hchild⟩

/-- What a node says where it stands, the tree says. -/
theorem Reaches.mem_marks (h : c.Reaches n d m) {mark : Mark} (hmark : mark ∈ d.marks m) :
    mark ∈ c.marks n := by
  induction h with
  | refl => exact hmark
  | @child d m child field _ hchild ih =>
    refine ih ?_
    rw [marks_eq, List.mem_append, List.mem_flatMap]
    exact .inr ⟨(field, child), Node.mem_children_iff.mpr hchild, hmark⟩

/-- A child stands in the scopes around its parent, and may stand in one that the parent opens. -/
theorem scopes_below (c : Standing) (n child : Node) (field : Field) :
    (c.below n field child).scopes = c.scopes ∨
      ∃ type, (c.below n field child).scopes = ⟨type, n.id⟩ :: c.scopes := by
  unfold below inner
  dsimp only
  split
  · exact .inl rfl
  · cases c.opens? n with
    | none => exact .inl rfl
    | some type => exact .inr ⟨type, rfl⟩

/-- The scopes around a node are those around a node above it, after those that are opened in
between. -/
theorem Reaches.exists_scopes (h : c.Reaches n d m) : ∃ opened, d.scopes = opened ++ c.scopes ∧
    ∀ scope ∈ opened, ∃ above ∈ n.nodes, above.id = scope.node ∧ m ∈ above.nodes ∧ m ≠ above := by
  induction h with
  | refl => exact ⟨[], rfl, by simp⟩
  | @child d m child field hreaches hchild ih =>
    obtain ⟨opened, hscopes, hopened⟩ := ih
    have hbelow {above : Node} (hm : m ∈ above.nodes) : child ∈ above.nodes ∧ child ≠ above := by
      have hsmaller := Node.size_lt_of_mem_branches hchild
      have hlarger := Node.size_le_of_mem_nodes hm
      refine ⟨Node.mem_nodes_of_mem_branches hm hchild, ?_⟩
      rintro rfl
      omega
    have hinherited : ∀ scope ∈ opened, ∃ above ∈ n.nodes, above.id = scope.node ∧
        child ∈ above.nodes ∧ child ≠ above := by
      intro scope hscope
      obtain ⟨above, habove, hid, hm, -⟩ := hopened scope hscope
      exact ⟨above, habove, hid, hbelow hm⟩
    rcases scopes_below d m child field with hsame | ⟨type, hpushed⟩
    · exact ⟨opened, hsame.trans hscopes, hinherited⟩
    · refine ⟨⟨type, m.id⟩ :: opened, by rw [hpushed, hscopes, List.cons_append], ?_⟩
      exact List.forall_mem_cons.mpr
        ⟨⟨m, hreaches.mem_nodes, rfl, hbelow m.mem_nodes_self⟩, hinherited⟩

/-- The scopes around a node are that of the program and those of nodes above it. -/
theorem Reaches.exists_above {tree : Node} (h : (Lexical.top tree).Reaches tree d m)
    {scope : Opening} (hscope : scope ∈ d.scopes) :
    scope = ⟨.program, tree.id⟩ ∨
      ∃ above ∈ tree.nodes, above.id = scope.node ∧ m ∈ above.nodes ∧ m ≠ above := by
  obtain ⟨opened, hscopes, hopened⟩ := h.exists_scopes
  rw [hscopes, List.mem_append] at hscope
  exact hscope.symm.imp List.mem_singleton.mp (hopened scope)

end Standing

/-- A declaration is found where an identifier stands for one. -/
theorem Lexical.mem_declarations_of_reaches {tree : Node} {c : Standing} {n : Node}
    (hreaches : (top tree).Reaches tree c n) (hidentifier : n.isIdentifier = true)
    {target : Option Opening} {kind : BindingKind} (huse : c.use = .binds target kind) :
    ⟨target, kind, c.occurrence n⟩ ∈ declarations tree := by
  have hown : Mark.declared ⟨target, kind, c.occurrence n⟩ ∈ c.marks n := by
    rw [Standing.marks_eq]
    refine List.mem_append_left _ ?_
    simp [Standing.own, hidentifier, huse]
  exact List.mem_filterMap.mpr ⟨_, List.mem_cons_of_mem _ (hreaches.mem_marks hown), rfl⟩

/-- The name of a declared function is an identifier. -/
theorem Node.WellFormed.isIdentifier_name {tree f name : Node} (h : tree.WellFormed)
    (hf : f ∈ tree.nodes) (hkind : f.kind = some .functionDeclaration)
    (hname : f.child? .id = some name) : name.isIdentifier = true := by
  have hadmits := Node.admits_of_isShaped (h.shaped f hf) (Node.mem_branches_of_child? hname)
  simpa [Node.admits, hkind] using hadmits

namespace Store

theorem realises_of_analyze {tree : Node} {s : Store} (h : analyze tree = .ok s)
    (hformed : tree.WellFormed) (hunshared : tree.Unshared) : s.Realises tree := by
  obtain ⟨-, facts, hfacts, rfl⟩ := analyze_eq_ok_iff.mp h
  have hsurveyed : Surveyed tree facts := ⟨hformed, hunshared, hfacts⟩
  exact hsurveyed.realises

/-- A binding of an identifier among the parameters of a declared function. -/
def IsParameterOf (s : Store) (f : Node) (id : BindingId) : Prop :=
  f.kind = some .functionDeclaration ∧
    ∃ p, some p ∈ f.params ∧ p.isIdentifier = true ∧ s.bindingOf? p = some id

namespace Realises

variable {s : Store} {tree f g : Node} {id : BindingId}

/-- A declaration belongs to a binding of the scope that takes it. -/
theorem exists_binding (h : s.Realises tree) {d : Lexical.Declaration}
    (hd : d ∈ Lexical.declarations tree) : ∃ (id : BindingId) (b : Binding),
      s.bindings[id]? = some b ∧ s.opening? b.scope = d.target ∧
        s.bindingOf? d.occurrence.identifier = some id := by
  obtain ⟨id, b, hb, htarget, hname⟩ := h.declared d hd
  obtain ⟨scope, hgroups⟩ := h.bindings id b hb
  have hours : d.occurrence ∈ b.declarations.map (Site.occurrence s.numbering) := by
    refine hgroups.declarations.mem_iff.mpr (List.mem_map.mpr ⟨d, ?_, rfl⟩)
    simp [hd, ← htarget, hgroups.opening, hname]
  obtain ⟨site, hsite, hoccurrence⟩ := List.mem_map.mp hours
  refine ⟨id, b, hb, htarget, ?_⟩
  rw [← hoccurrence]
  exact h.owner id b hb site (List.mem_append_left _ hsite)

/-- A parameter of a declared function is bound in the scope of the function. -/
theorem exists_parameter (h : s.Realises tree) (hf : f ∈ tree.nodes)
    (hkind : f.kind = some .functionDeclaration) {p : Node} (hp : some p ∈ f.params)
    (hidentifier : p.isIdentifier = true) : ∃ (id : BindingId) (b : Binding),
      s.bindings[id]? = some b ∧ s.opening? b.scope = some ⟨.function, f.id⟩ ∧
        s.bindingOf? p = some id := by
  obtain ⟨c, hreaches⟩ := Standing.exists_reaches hf (Lexical.top tree)
  have huse : (c.below f .params p).use = .binds (some ⟨.function, f.id⟩) .parameter := by
    simp [Standing.below, Standing.useUnder, Standing.inner, Standing.opens?, hkind]
  exact h.exists_binding
    (Lexical.mem_declarations_of_reaches (hreaches.child (Node.mem_items_iff.mp hp)) hidentifier huse)

/-- The binding of a parameter belongs to the scope of one function. -/
theorem opening?_of_isParameterOf (h : s.Realises tree) (hf : f ∈ tree.nodes)
    (hparameter : s.IsParameterOf f id) {b : Binding} (hb : s.bindings[id]? = some b) :
    s.opening? b.scope = some ⟨.function, f.id⟩ := by
  obtain ⟨hkind, p, hp, hidentifier, hid⟩ := hparameter
  obtain ⟨id', b', hb', hopening, hid'⟩ := h.exists_parameter hf hkind hp hidentifier
  obtain rfl : id = id' := Option.some.inj (hid.symm.trans hid')
  obtain rfl : b = b' := Option.some.inj (hb.symm.trans hb')
  exact hopening

/-- No two functions have a parameter of one binding. -/
theorem eq_of_isParameterOf (h : s.Realises tree) (hunshared : tree.Unshared) (hf : f ∈ tree.nodes)
    (hg : g ∈ tree.nodes) (hparameter : s.IsParameterOf f id)
    (hparameter' : s.IsParameterOf g id) : f = g := by
  obtain ⟨hkind, p, hp, hidentifier, hid⟩ := hparameter
  obtain ⟨id', b, hb, hopening, hid'⟩ := h.exists_parameter hf hkind hp hidentifier
  obtain rfl : id = id' := Option.some.inj (hid.symm.trans hid')
  have hsame := hopening.symm.trans (h.opening?_of_isParameterOf hg hparameter' hb)
  exact hunshared.identity f hf g hg (Opening.mk.inj (Option.some.inj hsame)).2

/-- The binding of a declared function is that of a parameter only of a function around it. -/
theorem exists_name (h : s.Realises tree) (hunshared : tree.Unshared) (hf : f ∈ tree.nodes)
    (hkind : f.kind = some .functionDeclaration) {name : Node}
    (hname : f.child? .id = some name) (hidentifier : name.isIdentifier = true) :
    ∃ id, s.bindingOf? name = some id ∧
      ∀ g ∈ tree.nodes, s.IsParameterOf g id → f ∈ g.nodes ∧ f ≠ g := by
  obtain ⟨c, hreaches⟩ := Standing.exists_reaches hf (Lexical.top tree)
  have huse : (c.below f .id name).use = .binds c.scopes.head? .function := by
    simp [Standing.below, Standing.useUnder, hkind]
  have hchild := hreaches.child (Node.mem_branches_of_child? hname)
  obtain ⟨id, b, hb, hopening, hid⟩ :=
    h.exists_binding (Lexical.mem_declarations_of_reaches hchild hidentifier huse)
  refine ⟨id, hid, fun g hg hparameter ↦ ?_⟩
  have hscope : c.scopes.head? = some ⟨.function, g.id⟩ :=
    hopening.symm.trans (h.opening?_of_isParameterOf hg hparameter hb)
  rcases hreaches.exists_above (List.mem_of_mem_head? hscope) with hprogram | habove
  · cases hprogram
  · obtain ⟨above, habove, hsame, hbelow⟩ := habove
    obtain rfl : above = g := hunshared.identity above habove g hg hsame
    exact hbelow

end Realises

end Store

end Relabel
