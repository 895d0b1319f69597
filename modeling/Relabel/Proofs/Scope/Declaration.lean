import Relabel.Proofs.Scope.Occurrence

/-!
# First declarations

A binding has the kind of its first declaration. If that is the kind of functions, the first
declaration is the name of a function declaration or of nothing else that can be taken for one.
-/

namespace Relabel

namespace Store

variable {s : Store} {stated : List (ScopeId × BindingKind × Site)}

/-- The first declaration of every binding was stated with the kind of the binding. -/
def Led (s : Store) (stated : List (ScopeId × BindingKind × Site)) : Prop :=
  ∀ (id : BindingId) (b : Binding), s.bindings[id]? = some b →
    ∃ d ∈ stated, b.declarations.head? = some d.2.2 ∧ d.2.1 = b.kind

theorem led_empty : ({} : Store).Led [] := by
  simp [Led]

theorem Led.declare (h : s.Led stated) (hs : s.Consistent []) (target : ScopeId)
    (kind : BindingKind) (site : Site) :
    (s.declare target kind site).Led (stated ++ [(target, kind, site)]) := by
  intro id b hb
  rw [getElem?_bindings_declare hs] at hb
  split at hb
  · obtain rfl := Option.some.inj hb
    cases hown : s.own? target site.name with
    | none =>
      refine ⟨(target, kind, site), by simp, ?_⟩
      simp [declaredBinding, declaree, hown]
    | some found =>
      obtain ⟨old, hold, -, -⟩ := (hs.own_iff _ _ _).mp hown
      obtain ⟨d, hd, hfirst, hkind⟩ := h found old hold
      refine ⟨d, List.mem_append_left _ hd, ?_⟩
      simp [declaredBinding, declaree, hown, hold, List.head?_append, hfirst, hkind]
  · obtain ⟨d, hd, hrest⟩ := h id b hb
    exact ⟨d, List.mem_append_left _ hd, hrest⟩

theorem Led.foldl_learn (h : s.Led stated) (hs : s.Consistent []) {facts : List Fact}
    (hfit : Fact.Fit s facts) :
    (facts.foldl learn s).Led (stated ++ facts.filterMap Fact.declaration?) := by
  induction facts generalizing s stated with
  | nil => simpa using h
  | cons fact rest ih =>
    have hconsistent := hs.learn hfit.1
    cases fact with
    | opened | placed | referred => exact ih h hconsistent hfit.2
    | declared target kind site =>
      have hrest := ih (h.declare hs target kind site) hconsistent hfit.2
      rwa [List.append_assoc] at hrest

theorem led_ofFacts {facts : List Fact} (hfit : Fact.Fit {} facts) :
    (ofFacts facts).Led (facts.filterMap Fact.declaration?) := by
  intro id b hb
  obtain ⟨old, hold, -, -, hkind, hdeclarations, -⟩ := exists_learned hb
  have hled := led_empty.foldl_learn consistent_empty hfit
  rw [List.nil_append] at hled
  rw [← hkind, ← hdeclarations]
  exact hled id old hold

end Store

theorem Standing.use_of_mem_own {c : Standing} {n : Node} {d : Lexical.Declaration}
    (h : Lexical.Mark.declared d ∈ c.own n) :
    n.isIdentifier = true ∧ c.use = .binds d.target d.kind ∧ d.occurrence = c.occurrence n := by
  unfold own at h
  by_cases hidentifier : n.isIdentifier = true
  · rw [if_pos hidentifier] at h
    refine ⟨hidentifier, ?_⟩
    cases huse : c.use <;> simp_all
  · rw [if_neg hidentifier] at h
    cases hopens : c.opens? n <;> simp_all

/-- A declaration is an identifier that stands for one. -/
theorem Lexical.exists_reaches_of_mem_declarations {tree : Node} {d : Declaration}
    (hd : d ∈ declarations tree) : ∃ c n, (top tree).Reaches tree c n ∧ n.isIdentifier = true ∧
      c.use = .binds d.target d.kind ∧ d.occurrence = c.occurrence n := by
  obtain ⟨mark, hmark, hdeclaration⟩ := List.mem_filterMap.mp hd
  obtain rfl : mark = .declared d := by
    cases mark <;> simp_all [Mark.declaration?]
  rw [marks, List.mem_cons] at hmark
  rcases hmark with hopened | hmark
  · simp at hopened
  obtain ⟨c, n, hreaches, hown⟩ := Standing.exists_reaches_of_mem_marks hmark
  exact ⟨c, n, hreaches, Standing.use_of_mem_own hown⟩

/-- The name of a function declaration is declared with the kind of functions, and nothing else is
that stands under one. -/
theorem Standing.kind_eq_function_iff {c : Standing} {n child : Node} {field : Field}
    (hkind : n.kind = some .functionDeclaration) {target : Option Opening} {kind : BindingKind}
    (huse : c.useUnder n field child = .binds target kind) :
    kind = .function ↔ field = .id := by
  unfold useUnder at huse
  rw [hkind] at huse
  cases field
  case id => simp_all
  all_goals
    simp only [isPart, hkind] at huse
    grind

namespace Node.WellFormed

variable {tree : Node} {d : Lexical.Declaration}

/-- A declaration stands where its parent declares what is written there. -/
theorem exists_use (h : tree.WellFormed) (hd : d ∈ Lexical.declarations tree) :
    ∃ c field, Lexical.Stands tree d.occurrence c field ∧
      c.useUnder d.occurrence.parent field d.occurrence.identifier = .binds d.target d.kind := by
  obtain ⟨c, n, hreaches, hidentifier, huse, hoccurrence⟩ :=
    Lexical.exists_reaches_of_mem_declarations hd
  obtain ⟨d', field, hstands, hunder⟩ :=
    h.stands_of_reaches hreaches hidentifier (by rw [huse]; simp)
  rw [hoccurrence]
  exact ⟨d', field, hstands, hunder.trans huse⟩

theorem child?_id (h : tree.WellFormed) {n name : Node} (hn : n ∈ tree.nodes)
    (hkind : n.kind = some .functionDeclaration) (hname : (Field.id, some name) ∈ n.branches) :
    n.child? .id = some name :=
  child?_eq_some_of_mem (length_items_of_isShaped (h.shaped n hn) hkind rfl (by decide) (by decide))
    hname

end Node.WellFormed

namespace Store

variable {tree : Node} {s : Store} {id : BindingId} {b : Binding} {site : Site}

/-- The first declaration of a binding stands where something is declared with the binding's kind.
-/
theorem Surveyed.exists_use {facts : List Fact} (h : Surveyed tree facts)
    (hb : (ofFacts facts).bindings[id]? = some b) (hsite : b.declarations.head? = some site) :
    ∃ c field target, Lexical.Stands tree (site.occurrence (ofFacts facts).numbering) c field ∧
      c.useUnder site.parent field site.identifier = .binds target b.kind := by
  obtain ⟨d, hd, hfirst, hkind⟩ := led_ofFacts h.fit id b hb
  obtain rfl := Option.some.inj (hsite.symm.trans hfirst)
  have hdeclared := h.perm_declarations.mem_iff.mp (List.mem_map.mpr ⟨d, hd, rfl⟩)
  obtain ⟨c, field, hstands, huse⟩ := h.wellFormed.exists_use hdeclared
  exact ⟨c, field, _, hstands, hkind ▸ huse⟩

theorem parent_mem_nodes (hs : analyze tree = .ok s) (hformed : tree.WellFormed)
    (hunshared : tree.Unshared) (hb : s.bindings[id]? = some b)
    (hsite : b.declarations.head? = some site) : site.parent ∈ tree.nodes := by
  obtain ⟨-, facts, hfacts, rfl⟩ := analyze_eq_ok_iff.mp hs
  obtain ⟨_, _, _, hstands, -⟩ := Surveyed.exists_use ⟨hformed, hunshared, hfacts⟩ hb hsite
  exact hstands.parent.mem_nodes

/-- If the first declaration of a function stands under a function declaration, it is the name of
it. -/
theorem child?_id_of_function (hs : analyze tree = .ok s) (hformed : tree.WellFormed)
    (hunshared : tree.Unshared) (hb : s.bindings[id]? = some b) (hkind : b.kind = .function)
    (hsite : b.declarations.head? = some site)
    (hparent : site.parent.hasKind .functionDeclaration = true) :
    site.parent ∈ tree.nodes ∧ site.parent.child? .id = some site.identifier := by
  obtain ⟨-, facts, hfacts, rfl⟩ := analyze_eq_ok_iff.mp hs
  obtain ⟨c, field, target, hstands, huse⟩ :=
    Surveyed.exists_use ⟨hformed, hunshared, hfacts⟩ hb hsite
  have hparent : site.parent.kind = some .functionDeclaration := by
    simpa [Node.hasKind] using hparent
  obtain rfl := (Standing.kind_eq_function_iff hparent huse).mp hkind
  have hmem : site.parent ∈ tree.nodes := hstands.parent.mem_nodes
  exact ⟨hmem, hformed.child?_id hmem hparent hstands.child⟩

/-- A binding that is declared first by the name of a function declaration is a function. -/
theorem function_of_child?_id (hs : analyze tree = .ok s) (hformed : tree.WellFormed)
    (hunshared : tree.Unshared) (hb : s.bindings[id]? = some b)
    (hsite : b.declarations.head? = some site) {n : Node} (hn : n ∈ tree.nodes)
    (hkind : n.hasKind .functionDeclaration = true) (hname : n.child? .id = some site.identifier) :
    b.kind = .function ∧ site.parent = n := by
  obtain ⟨-, facts, hfacts, rfl⟩ := analyze_eq_ok_iff.mp hs
  obtain ⟨c, field, target, hstands, huse⟩ :=
    Surveyed.exists_use ⟨hformed, hunshared, hfacts⟩ hb hsite
  have hkind : n.kind = some .functionDeclaration := by simpa [Node.hasKind] using hkind
  have hedge : Edge.mk n .id site.identifier ∈ tree.edges :=
    Node.mem_edges_iff.mpr ⟨hn, Node.mem_branches_of_child? hname⟩
  have hlent : (Edge.mk n .id site.identifier).isLent = false := by simp [Edge.isLent]
  obtain ⟨hparent, rfl, -⟩ := Edge.mk.inj
    (hunshared.edge_eq hstands.mem_edges hedge (hstands.isLent_eq_false hformed) hlent rfl)
  have hparent : site.parent = n := hparent
  subst hparent
  exact ⟨(Standing.kind_eq_function_iff hkind huse).mpr rfl, rfl⟩

end Store

end Relabel
