import Relabel.Proofs.Scope.Census
import Relabel.Proofs.Scope.Declaration
import Relabel.Proofs.Scope.Nesting
import Relabel.Proofs.Scope.Parameter

/-!
# What the parameters of a function see

A function opens one scope, which its parameters and its body share. A default or a computed key
among the parameters therefore sees what the body declares in that scope, as if it stood next to
the parameters. What the body declares in scopes of its own it does not see. What it refers to
otherwise is declared by the parameters, is the function's own name, stands inside the parameter
itself or belongs to a scope around the function.
-/

namespace Relabel

/-! ## Where names are bound -/

/-- A search through the scopes around a node that finds one of them ends there or further in. -/
theorem exists_find?_append_cons {α : Type} {p : α → Bool} {x : α} (hx : p x = true)
    (xs ys : List α) : ∃ y, (xs ++ x :: ys).find? p = some y ∧ (y ∈ xs ∨ y = x) := by
  rw [List.find?_append]
  cases hfound : xs.find? p with
  | some y => exact ⟨y, rfl, .inl (List.mem_of_find?_eq_some hfound)⟩
  | none => exact ⟨x, by simp [hx], .inr rfl⟩

namespace Standing

variable {c d : Standing} {n m child : Node} {field : Field} {target : Option Opening}
  {kind : BindingKind} {scope : Opening}

/-- A child is bound in the innermost scope around it, in the nearest one that takes variables, at
the top if it is imported, or where the node that holds it is bound. -/
theorem binds_of_useUnder (h : c.useUnder n field child = .binds target kind) :
    target = (c.below n field child).scopes.head? ∨ target = (c.below n field child).hoist? ∨
      kind = .imported ∧ target = (c.below n field child).scopes.getLast? ∨
      c.use = .binds target kind ∧ (c.below n field child).scopes = c.scopes := by
  by_cases hpart : isPart n field = true
  · refine .inr (.inr (.inr ?_))
    have hbelow := below_of_isPart hpart c child
    have huse : (c.below n field child).use = .binds target kind := h
    rw [hbelow] at huse ⊢
    refine ⟨?_, rfl⟩
    cases hc : c.use <;> simp_all
  · rw [Bool.not_eq_true] at hpart
    unfold useUnder at h
    split at h <;> simp_all [below, inner, opens?, isOutside, hoist?]
    -- What is left tests the keyword of a declaration, or whether a body is a block.
    all_goals
      split at h
      · simp_all
      · simp_all

/-- The scopes around what is not the program are opened by nodes that hold it. -/
theorem Reaches.exists_holder {tree : Node} (h : (Lexical.top tree).Reaches tree d m)
    (hscope : scope ∈ d.scopes) (hne : m ≠ tree) :
    ∃ above ∈ tree.nodes, above.id = scope.node ∧ m ∈ above.nodes ∧ m ≠ above := by
  rcases h.exists_above hscope with rfl | habove
  · exact ⟨tree, tree.mem_nodes_self, rfl, h.mem_nodes, hne⟩
  · exact habove

/-- What is bound is bound in a scope around it. -/
theorem Reaches.mem_scopes {tree : Node} (h : (Lexical.top tree).Reaches tree d m)
    (huse : d.use = .binds (some scope) kind) : scope ∈ d.scopes := by
  induction h with
  | refl => exact absurd huse (by simp [Lexical.top])
  | child hreaches hchild ih =>
    rcases binds_of_useUnder huse with hhead | hhoist | ⟨-, hlast⟩ | ⟨hinherited, hscopes⟩
    · exact List.mem_of_mem_head? hhead.symm
    · exact List.mem_of_find?_eq_some hhoist.symm
    · exact List.mem_of_getLast? hlast.symm
    · rw [hscopes]
      exact ih hinherited

/-- What is bound below a node, if the innermost scope around the node takes variables, is bound
there or further in, or imported. -/
theorem Reaches.exists_target {own : Opening} {outer : List Opening} (h : c.Reaches n d m)
    (hscopes : c.scopes = own :: outer) (hown : own.type.takesVariables = true)
    (hfree : c.use ≠ .binds target kind) (huse : d.use = .binds target kind) :
    kind = .imported ∨ ∃ scope, target = some scope ∧
      (scope = own ∨ ∃ above ∈ n.nodes, above.id = scope.node) := by
  induction h with
  | refl => exact absurd huse hfree
  | @child d m child field hreaches hchild ih =>
    obtain ⟨opened, hbelow, hopened⟩ := (hreaches.child hchild).exists_scopes
    rw [hscopes] at hbelow
    have hwithin {scope : Opening} (hscope : scope ∈ opened ∨ scope = own) :
        scope = own ∨ ∃ above ∈ n.nodes, above.id = scope.node := by
      refine hscope.symm.imp_right fun hin ↦ ?_
      obtain ⟨above, habove, hid, -⟩ := hopened scope hin
      exact ⟨above, habove, hid⟩
    have hnearest (p : Opening → Bool) (hp : p own = true)
        (htarget : target = (d.below m field child).scopes.find? p) :
        ∃ scope, target = some scope ∧
          (scope = own ∨ ∃ above ∈ n.nodes, above.id = scope.node) := by
      obtain ⟨scope, hfound, hscope⟩ := exists_find?_append_cons hp opened outer
      exact ⟨scope, by rw [htarget, hbelow, hfound], hwithin hscope⟩
    rcases binds_of_useUnder huse with hhead | hhoist | ⟨himported, -⟩ | ⟨hinherited, -⟩
    · have hfirst (scopes : List Opening) : scopes.head? = scopes.find? fun _ ↦ true := by
        cases scopes <;> rfl
      exact .inr (hnearest (fun _ ↦ true) rfl (hhead.trans (hfirst _)))
    · exact .inr (hnearest (·.type.takesVariables) hown hhoist)
    · exact .inl himported
    · exact ih hinherited

end Standing

namespace Node.WellFormed

variable {tree f child m : Node} {d : Standing} {field : Field}

/-- The path to a node that is no name leads through what holds it. -/
theorem exists_reaches (h : tree.WellFormed) (hunshared : tree.Unshared)
    (hreaches : (Lexical.top tree).Reaches tree d m) (hname : m.isNaming = false)
    (hf : f ∈ tree.nodes) (hchild : (field, some child) ∈ f.branches) (hm : m ∈ child.nodes) :
    ∃ c, (Lexical.top tree).Reaches tree c f ∧ (c.below f field child).Reaches child d m := by
  induction hreaches with
  | refl => exact absurd (mem_nodes_trans hm hf) (not_mem_nodes_of_mem_branches hchild)
  | @child d parent m place hparent hbranch ih =>
    by_cases hsame : m = child
    · subst hsame
      obtain ⟨rfl, rfl⟩ := h.parent_eq hunshared hname hf hparent.mem_nodes hchild hbranch
      exact ⟨d, hparent, .refl⟩
    · have hchildTree := mem_nodes_of_mem_branches hf hchild
      have hbelow := h.mem_nodes_of_child hunshared hname hparent.mem_nodes hbranch hchildTree hm
        hsame
      obtain ⟨c, hc, hmore⟩ := ih (h.isNaming_of_mem_branches hparent.mem_nodes hbranch) hbelow
      exact ⟨c, hc, hmore.child hbranch⟩

/-- The path to an identifier that names no property leads through a node that holds it below one
of its labels. -/
theorem exists_reaches_of_isIdentifier (h : tree.WellFormed) (hunshared : tree.Unshared)
    (hreaches : (Lexical.top tree).Reaches tree d m) (hidentifier : m.isIdentifier = true)
    (huse : d.use ≠ .name) (hf : f ∈ tree.nodes) (hchild : (field, some child) ∈ f.branches)
    (hlent : (Edge.mk f field child).isLent = false) (hm : m ∈ child.nodes) :
    ∃ c, (Lexical.top tree).Reaches tree c f ∧ (c.below f field child).Reaches child d m := by
  cases hreaches with
  | refl => exact absurd (mem_nodes_trans hm hf) (not_mem_nodes_of_mem_branches hchild)
  | @child d parent _ place hparent hbranch =>
    have hstands : Lexical.Stands tree ((d.below parent place m).occurrence m) d place :=
      ⟨hparent, hbranch, hidentifier, by
        rw [Bool.eq_false_iff]
        exact fun hname ↦ huse (Standing.useUnder_of_isPropertyName hname d m), rfl⟩
    have hunlent := hstands.isLent_eq_false h
    by_cases hsame : m = child
    · subst hsame
      obtain ⟨rfl, rfl, -⟩ := Edge.mk.inj (hunshared.edge_eq hstands.mem_edges
        (mem_edges_iff (e := ⟨f, field, m⟩).mpr ⟨hf, hchild⟩) hunlent hlent rfl)
      exact ⟨d, hparent, .refl⟩
    · -- Where the child holds the identifier twice, one of the two paths is not lent.
      have hchildTree := mem_nodes_of_mem_branches hf hchild
      obtain ⟨holder, hholder, slot, hslot⟩ := exists_parent hm hsame
      obtain ⟨first, hfirst, hfirstUnlent, hid⟩ :=
        exists_first (fun n hn ↦ h.shaped n (mem_nodes_trans hchildTree hn))
          (mem_edges_iff (e := ⟨holder, slot, m⟩).mpr ⟨hholder, hslot⟩)
      obtain ⟨hfirstParent, hfirstBranch⟩ := mem_edges_iff.mp hfirst
      have hedge := hunshared.edge_eq hstands.mem_edges
        (mem_edges_iff.mpr ⟨mem_nodes_trans hchildTree hfirstParent, hfirstBranch⟩) hunlent
        hfirstUnlent hid.symm
      have hbelow : parent ∈ child.nodes := by
        rw [← hedge] at hfirstParent
        exact hfirstParent
      obtain ⟨c, hc, hmore⟩ := h.exists_reaches hunshared hparent
        (h.isNaming_of_mem_branches hparent.mem_nodes hbranch) hf hchild hbelow
      exact ⟨c, hc, hmore.child hbranch⟩

end Node.WellFormed

namespace Store

/-- The scope of a binding is opened by a node. -/
def OpenedBy (s : Store) (b : Binding) (n : Node) : Prop :=
  (s.opening? b.scope).map Opening.node = some n.id

namespace Realises

variable {s : Store} {tree f child : Node} {id : BindingId} {b : Binding} {site : Site}
  {field : Field}

/-- A declaration of a binding stands for one in the scope of the binding. -/
theorem exists_reaches_of_declaration (h : s.Realises tree) (hb : s.bindings[id]? = some b)
    (hsite : site ∈ b.declarations) : ∃ c kind, (Lexical.top tree).Reaches tree c site.identifier ∧
      site.identifier.isIdentifier = true ∧ c.use = .binds (s.opening? b.scope) kind := by
  obtain ⟨scope, hgroups⟩ := h.bindings id b hb
  have hmem := hgroups.declarations.mem_iff.mp (List.mem_map.mpr ⟨site, hsite, rfl⟩)
  obtain ⟨d, hd, hoccurrence⟩ := List.mem_map.mp hmem
  obtain ⟨hdeclared, htarget⟩ := List.mem_filter.mp hd
  obtain ⟨c, n, hreaches, hidentifier, huse, hstands⟩ :=
    Lexical.exists_reaches_of_mem_declarations hdeclared
  have hsame : n = site.identifier :=
    congrArg Occurrence.identifier (hstands.symm.trans hoccurrence)
  subst hsame
  have hopening : d.target = s.opening? b.scope := by
    rw [hgroups.opening]
    exact (of_decide_eq_true htarget).1
  exact ⟨c, d.kind, hreaches, hidentifier, hopening ▸ huse⟩

/-- Some declaration of a binding has the kind of the binding. -/
theorem exists_declaration_of_kind (h : s.Realises tree) (hb : s.bindings[id]? = some b) :
    ∃ site ∈ b.declarations, ∃ c, (Lexical.top tree).Reaches tree c site.identifier ∧
      site.identifier.isIdentifier = true ∧ c.use = .binds (s.opening? b.scope) b.kind := by
  obtain ⟨scope, hgroups⟩ := h.bindings id b hb
  obtain ⟨d, hd, htarget, hname, hkind⟩ := hgroups.kind
  have hmem := hgroups.declarations.mem_iff.mpr (List.mem_map.mpr
    ⟨d, List.mem_filter.mpr ⟨hd, decide_eq_true ⟨htarget, hname⟩⟩, rfl⟩)
  obtain ⟨site, hsite, hoccurrence⟩ := List.mem_map.mp hmem
  obtain ⟨c, n, hreaches, hidentifier, huse, hstands⟩ :=
    Lexical.exists_reaches_of_mem_declarations hd
  have hsame : n = site.identifier :=
    congrArg Occurrence.identifier (hstands.symm.trans hoccurrence.symm)
  subst hsame
  refine ⟨site, hsite, c, hreaches, hidentifier, ?_⟩
  rw [huse, htarget, hgroups.opening, hkind]

/-- A reference to a binding stands in scopes of which that of the binding is the first one to take
the name. -/
theorem exists_reaches_of_reference (h : s.Realises tree) (hb : s.bindings[id]? = some b)
    (hsite : site ∈ b.references) : ∃ c, (Lexical.top tree).Reaches tree c site.identifier ∧
      site.identifier.isIdentifier = true ∧ c.use ≠ .name ∧
        c.scopes.find? (Lexical.binds tree b.name) = s.opening? b.scope := by
  obtain ⟨scope, hgroups⟩ := h.bindings id b hb
  have hmem := hgroups.references.mem_iff.mp (List.mem_map.mpr ⟨site, hsite, rfl⟩)
  obtain ⟨hreferred, hbound⟩ := List.mem_filter.mp hmem
  obtain ⟨hname, hbinder⟩ := of_decide_eq_true hbound
  obtain ⟨c, n, hreaches, hidentifier, huse, hstands⟩ :=
    Lexical.exists_reaches_of_mem_occurrences (Lexical.mem_occurrences_of_reference hreferred)
  have hsame : n = site.identifier := congrArg Occurrence.identifier hstands.symm
  subst hsame
  refine ⟨c, hreaches, hidentifier, huse, ?_⟩
  rw [Lexical.binder?, hname, hstands] at hbinder
  exact hbinder.trans hgroups.opening.symm

/-- The scope of a binding is around every one of its sites. -/
theorem exists_scope (h : s.Realises tree) (hb : s.bindings[id]? = some b)
    (hsite : site ∈ b.sites) : ∃ c scope, (Lexical.top tree).Reaches tree c site.identifier ∧
      site.identifier.isIdentifier = true ∧ c.use ≠ .name ∧
        s.opening? b.scope = some scope ∧ scope ∈ c.scopes := by
  obtain ⟨scope, hgroups⟩ := h.bindings id b hb
  have hopening := hgroups.opening
  rcases List.mem_append.mp hsite with hdeclared | hreferred
  · obtain ⟨c, kind, hreaches, hidentifier, huse⟩ := h.exists_reaches_of_declaration hb hdeclared
    rw [hopening] at huse
    exact ⟨c, scope, hreaches, hidentifier, by simp [huse], hopening, hreaches.mem_scopes huse⟩
  · obtain ⟨c, hreaches, hidentifier, huse, hfound⟩ := h.exists_reaches_of_reference hb hreferred
    rw [hopening] at hfound
    exact ⟨c, scope, hreaches, hidentifier, huse, hopening, List.mem_of_find?_eq_some hfound⟩

end Realises

end Store

/-! ## Functions -/

section Functions

variable {tree f p child n : Node} {c d : Standing} {field : Field}

/-- What stands in a function stands in its scope, apart from the name of a declared function. -/
theorem Standing.scopes_below_function (hfunction : Task.IsFunction f)
    (hfield : field = .id → f.kind ≠ some .functionDeclaration) (c : Standing) (child : Node) :
    (c.below f field child).scopes = ⟨.function, f.id⟩ :: c.scopes := by
  have hinside : isOutside f field = false := by
    unfold isOutside
    rcases hfunction with hkind | hkind | hkind <;> cases field <;> simp_all
  have hinner : c.inner f = ⟨.function, f.id⟩ :: c.scopes := by
    rcases hfunction with hkind | hkind | hkind <;> simp [inner, opens?, hkind]
  rw [below, hinside, hinner]
  rfl

theorem Standing.use_below_body (hfunction : Task.IsFunction f) (c : Standing) (child : Node)
    (target : Option Opening) (kind : BindingKind) :
    (c.below f .body child).use ≠ .binds target kind := by
  rcases hfunction with hkind | hkind | hkind <;>
    simp only [below, useUnder, hkind, ne_eq]
  all_goals split <;> simp

/-- No path from a function to one of its children is lent. -/
theorem Edge.isLent_of_function (hfunction : Task.IsFunction f) (field : Field) (child : Node) :
    (Edge.mk f field child).isLent = false := by
  rcases hfunction with hkind | hkind | hkind <;> simp [isLent, hkind]

namespace Node

/-- A name that a function lists: the own name of a function expression, or one that is written
among the parameters. -/
def Lists (f n : Node) : Prop :=
  f.kind = some .functionExpression ∧ f.child? .id = some n ∨ ∃ p, some p ∈ f.params ∧ n ∈ p.nodes

namespace WellFormed

theorem ne_of_isFunction (h : tree.WellFormed) (hfunction : Task.IsFunction f) : f ≠ tree := by
  rintro rfl
  rcases hfunction with hkind | hkind | hkind <;> simp [h.program] at hkind

/-- What stands in a function is its name, or among its parameters, or its body. -/
theorem label_of_function (h : tree.WellFormed) (hf : f ∈ tree.nodes)
    (hfunction : Task.IsFunction f) (hchild : (field, some child) ∈ f.branches) :
    field = .id ∧ child.isIdentifier = true ∧ f.kind ≠ some .arrowFunction ∨
      field = .params ∨ field = .body := by
  have hshaped := h.shaped f hf
  have hadmits := admits_of_isShaped hshaped hchild
  have hmem := mem_children_iff.mpr hchild
  rcases hfunction with hkind | hkind | hkind
  all_goals
    have hlabel := mem_labels_of_isShaped hshaped hkind rfl hmem
    simp only [List.mem_cons, List.not_mem_nil, or_false] at hlabel
    rcases hlabel with rfl | hlabel
    · simp_all [admits]
    · simp [hlabel]

/-- A function holds one child under each of its labels but that of the parameters. -/
theorem child?_of_function (h : tree.WellFormed) (hf : f ∈ tree.nodes)
    (hfunction : Task.IsFunction f) (hchild : (field, some child) ∈ f.branches)
    (hfield : field ≠ .params) : f.child? field = some child := by
  have hshaped := h.shaped f hf
  have hmem := mem_children_iff.mpr hchild
  refine child?_eq_some_of_mem ?_ hchild
  rcases hfunction with hkind | hkind | hkind
  all_goals
    exact length_items_of_isShaped hshaped hkind rfl
      (mem_labels_of_isShaped hshaped hkind rfl hmem) (by simpa [Kind.listFields] using hfield)

end WellFormed

end Node

end Functions

namespace Store

/-- What an identifier in a parameter of a function can resolve to: something in the scope of the
function, something in a scope that is opened inside the parameter, or something in a scope around
the function. -/
inductive Sees (s : Store) (tree f p n : Node) (b : Binding) : Prop
  /-- The scope of the function has what its own name, its parameters and its body declare. -/
  | own (opening : s.opening? b.scope = some ⟨.function, f.id⟩)
      (declared : ∀ d ∈ b.declarations, f.Lists d.identifier ∨
        ∃ body, f.child? .body = some body ∧ d.identifier ∈ body.nodes)
  | inside (k : Node) (mem : k ∈ p.nodes) (opened : s.OpenedBy b k) (holds : n ∈ k.nodes)
      (declared : ∀ d ∈ b.declarations, d.identifier ∈ k.nodes)
  /-- A reference leads out of the function only if the function's own scope lacks the name. -/
  | outward (k : Node) (mem : k ∈ tree.nodes) (opened : s.OpenedBy b k) (holds : f ∈ k.nodes)
      (ne : f ≠ k) (lacks : ∀ site ∈ b.references, site.identifier = n →
        ∀ (id : BindingId) (c : Binding), s.bindings[id]? = some c →
          s.opening? c.scope = some ⟨.function, f.id⟩ → c.name ≠ b.name)

namespace Realises

variable {s : Store} {tree f p k m n : Node} {id : BindingId} {b : Binding} {site : Site}

/-- The sites of a binding stand below the node that opens its scope. -/
theorem mem_nodes_of_openedBy (h : s.Realises tree) (hformed : tree.WellFormed)
    (hunshared : tree.Unshared) (hb : s.bindings[id]? = some b) (hk : k ∈ tree.nodes)
    (hopened : s.OpenedBy b k) (hsite : site ∈ b.sites) :
    site.identifier ∈ k.nodes ∧ site.identifier ≠ k := by
  obtain ⟨d, scope, hreaches, hidentifier, -, hopening, hscope⟩ := h.exists_scope hb hsite
  have hne : site.identifier ≠ tree := by
    rintro hroot
    rw [hroot, Node.isIdentifier_iff, hformed.program] at hidentifier
    exact absurd hidentifier (by decide)
  obtain ⟨above, habove, hid, hholds⟩ := hreaches.exists_holder hscope hne
  rw [OpenedBy, hopening, Option.map_some, ← hid, Option.some.injEq] at hopened
  obtain rfl := hunshared.identity above habove k hk hopened
  exact hholds

/-- A scope with a binding takes declarations of its name. -/
theorem binds_of_opening (h : s.Realises tree) (hb : s.bindings[id]? = some b) {scope : Opening}
    (hopening : s.opening? b.scope = some scope) : Lexical.binds tree b.name scope = true := by
  obtain ⟨scope', hgroups⟩ := h.bindings id b hb
  obtain ⟨d, hd, htarget, hname, -⟩ := hgroups.kind
  obtain rfl : scope = scope' := Option.some.inj (hopening.symm.trans hgroups.opening)
  exact List.any_eq_true.mpr ⟨d, hd, by simp [htarget, hname]⟩

/-- The name of a declared function is not bound in the function's own scope. -/
theorem opening?_ne_of_name (h : s.Realises tree) (hformed : tree.WellFormed)
    (hunshared : tree.Unshared) (hf : f ∈ tree.nodes) (hkind : f.kind = some .functionDeclaration)
    (hb : s.bindings[id]? = some b) (hsite : site ∈ b.declarations) {name : Node}
    (hname : (.id, some name) ∈ f.branches) (hm : site.identifier ∈ name.nodes) :
    s.opening? b.scope ≠ some ⟨.function, f.id⟩ := by
  intro hopening
  obtain ⟨d, kind, hreaches, hidentifier, huse⟩ := h.exists_reaches_of_declaration hb hsite
  rw [hopening] at huse
  obtain ⟨outer, houter, hbelow⟩ := hformed.exists_reaches_of_isIdentifier hunshared hreaches
    hidentifier (by simp [huse]) hf hname (Edge.isLent_of_function (.inl hkind) .id name) hm
  obtain ⟨opened, hscopes, hopened⟩ := hbelow.exists_scopes
  have hscope := hreaches.mem_scopes huse
  have houtside : (outer.below f .id name).scopes = outer.scopes := by
    simp [Standing.below, Standing.isOutside, hkind]
  rw [hscopes, houtside, List.mem_append] at hscope
  rcases hscope with hin | hout
  · obtain ⟨k, hk, hid, -⟩ := hopened _ hin
    have hkTree := Node.mem_nodes_trans (Node.mem_nodes_of_mem_branches hf hname) hk
    obtain rfl := hunshared.identity k hkTree f hf hid
    exact Node.not_mem_nodes_of_mem_branches hname hk
  · obtain ⟨above, habove, hid, -, hne⟩ :=
      houter.exists_holder hout (hformed.ne_of_isFunction (.inl hkind))
    exact hne (hunshared.identity above habove f hf hid).symm

section Parameters

variable (h : s.Realises tree) (hformed : tree.WellFormed) (hunshared : tree.Unshared)
  (hf : f ∈ tree.nodes) (hfunction : Task.IsFunction f) (hb : s.bindings[id]? = some b)

include h hformed hunshared hf hfunction hb

/-- What a function's own scope binds is listed by the function or declared in its body. -/
theorem lists_or_body (hopening : s.opening? b.scope = some ⟨.function, f.id⟩)
    (hsite : site ∈ b.declarations) : f.Lists site.identifier ∨
      ∃ body, f.child? .body = some body ∧ site.identifier ∈ body.nodes := by
  obtain ⟨d, kind, hreaches, hidentifier, huse⟩ := h.exists_reaches_of_declaration hb hsite
  rw [hopening] at huse
  obtain ⟨hm, hne⟩ := h.mem_nodes_of_openedBy hformed hunshared hb hf (by simp [OpenedBy, hopening])
    (List.mem_append_left _ hsite)
  obtain ⟨field, child, hchild, hbelow⟩ := (Node.mem_nodes_iff.mp hm).resolve_left hne
  rcases hformed.label_of_function hf hfunction hchild with ⟨rfl, hname, harrow⟩ | rfl | rfl
  · have hsame : site.identifier = child := by
      rcases Node.mem_nodes_iff.mp hbelow with hsame | ⟨_, _, hinner, -⟩
      · exact hsame
      · have hno := hformed.isNaming_of_mem_branches
          (Node.mem_nodes_of_mem_branches hf hchild) hinner
        simp [Node.isNaming, hname] at hno
    have hdeclared : f.kind ≠ some .functionDeclaration := fun hkind ↦
      h.opening?_ne_of_name hformed hunshared hf hkind hb hsite hchild hbelow hopening
    have hexpression : f.kind = some .functionExpression := by
      rcases hfunction with hkind | hkind | hkind
      · exact absurd hkind hdeclared
      · exact hkind
      · exact absurd hkind harrow
    refine .inl (.inl ⟨hexpression, ?_⟩)
    rw [hsame]
    exact hformed.child?_of_function hf hfunction hchild (by decide)
  · exact .inl (.inr ⟨child, Node.mem_items_iff.mpr hchild, hbelow⟩)
  · exact .inr ⟨child, hformed.child?_of_function hf hfunction hchild (by decide), hbelow⟩

/-- A reference in a parameter is bound in the scope of the function or inside the parameter, if the
scope of the function has the name. -/
theorem own_or_inside (hp : some p ∈ f.params) (hsite : site ∈ b.references)
    (hn : site.identifier ∈ p.nodes) {other : BindingId} {c : Binding}
    (hc : s.bindings[other]? = some c) (hopening : s.opening? c.scope = some ⟨.function, f.id⟩)
    (hname : c.name = b.name) :
    s.opening? b.scope = some ⟨.function, f.id⟩ ∨ ∃ k ∈ p.nodes, s.OpenedBy b k := by
  obtain ⟨d, hreaches, hidentifier, huse, hfound⟩ := h.exists_reaches_of_reference hb hsite
  obtain ⟨outer, -, hbelow⟩ := hformed.exists_reaches_of_isIdentifier hunshared hreaches hidentifier
    huse hf (Node.mem_items_iff.mp hp) (Edge.isLent_of_function hfunction .params p) hn
  obtain ⟨opened, hscopes, hopened⟩ := hbelow.exists_scopes
  rw [Standing.scopes_below_function hfunction (by simp)] at hscopes
  have hbinds := h.binds_of_opening hc hopening
  rw [hname] at hbinds
  obtain ⟨scope, hscope, hplace⟩ := exists_find?_append_cons hbinds opened outer.scopes
  rw [hscopes, hscope] at hfound
  rcases hplace with hinside | rfl
  · obtain ⟨k, hk, hid, -⟩ := hopened scope hinside
    exact .inr ⟨k, hk, by simp [OpenedBy, ← hfound, hid]⟩
  · exact .inl hfound.symm

/-- What an identifier in a parameter belongs to. -/
theorem sees (hp : some p ∈ f.params) (hsite : site ∈ b.sites) (hn : site.identifier ∈ p.nodes) :
    s.Sees tree f p site.identifier b := by
  have hbranch := Node.mem_items_iff.mp hp
  have hpTree := Node.mem_nodes_of_mem_branches hf hbranch
  obtain ⟨d, scope, hreaches, hidentifier, huse, hopening, hscope⟩ := h.exists_scope hb hsite
  obtain ⟨outer, houter, hbelow⟩ := hformed.exists_reaches_of_isIdentifier hunshared hreaches
    hidentifier huse hf hbranch (Edge.isLent_of_function hfunction .params p) hn
  obtain ⟨opened, hscopes, hopened⟩ := hbelow.exists_scopes
  rw [hscopes, Standing.scopes_below_function hfunction (by simp), List.mem_append,
    List.mem_cons] at hscope
  rcases hscope with hinside | rfl | houtside
  · obtain ⟨k, hk, hid, hholds, -⟩ := hopened scope hinside
    have hk' : s.OpenedBy b k := by simp [OpenedBy, hopening, hid]
    refine .inside k hk hk' hholds fun declared hdeclared ↦ ?_
    exact (h.mem_nodes_of_openedBy hformed hunshared hb (Node.mem_nodes_trans hpTree hk) hk'
      (List.mem_append_left _ hdeclared)).1
  · exact .own hopening fun declared hdeclared ↦
      h.lists_or_body hformed hunshared hf hfunction hb hopening hdeclared
  · obtain ⟨above, habove, hid, hholds, hne⟩ :=
      houter.exists_holder houtside (hformed.ne_of_isFunction hfunction)
    have hk : s.OpenedBy b above := by simp [OpenedBy, hopening, hid]
    refine .outward above habove hk hholds hne fun other hother hsame i c hc hown hname ↦ ?_
    -- The scope around the function is neither that of the function nor one inside the parameter.
    have hscopeOf {m : Node} (hm : m ∈ tree.nodes) (hopened : s.OpenedBy b m) : m = above := by
      rw [OpenedBy, hopening, Option.map_some, ← hid, Option.some.injEq] at hopened
      exact hunshared.identity m hm above habove hopened.symm
    rcases h.own_or_inside hformed hunshared hf hfunction hb hp hother (hsame ▸ hn) hc hown
      hname with hsame | ⟨k, hkp, hopened⟩
    · exact hne (hscopeOf hf (by simp [OpenedBy, hsame]))
    · obtain rfl := hscopeOf (Node.mem_nodes_trans hpTree hkp) hopened
      exact Node.not_mem_nodes_of_mem_branches hbranch (Node.mem_nodes_trans hkp hholds)

/-- What the body alone declares is seen in a parameter only if it is in the scope that both share,
or imported. -/
theorem own_or_imported (hp : some p ∈ f.params) (hsite : site ∈ b.sites)
    (hn : site.identifier ∈ p.nodes) {body : Node} (hbody : f.child? .body = some body)
    (hdeclared : ∀ d ∈ b.declarations, d.identifier ∈ body.nodes) :
    s.opening? b.scope = some ⟨.function, f.id⟩ ∨ b.kind = .imported := by
  have hparam := Node.mem_items_iff.mp hp
  have hbranch := Node.mem_branches_of_child? hbody
  have hbodyTree := Node.mem_nodes_of_mem_branches hf hbranch
  obtain ⟨d, hd, c, hreaches, hidentifier, huse⟩ := h.exists_declaration_of_kind hb
  obtain ⟨outer, -, hbelow⟩ := hformed.exists_reaches_of_isIdentifier hunshared hreaches hidentifier
    (by simp [huse]) hf hbranch (Edge.isLent_of_function hfunction .body body) (hdeclared d hd)
  rcases hbelow.exists_target (Standing.scopes_below_function hfunction (by simp) outer body) rfl
    (Standing.use_below_body hfunction outer body _ _) huse with
    himported | ⟨scope, hopening, rfl | ⟨k, hk, hid⟩⟩
  · exact .inr himported
  · exact .inl hopening
  · have hopened : s.OpenedBy b k := by simp [OpenedBy, hopening, hid]
    have hkTree := Node.mem_nodes_trans hbodyTree hk
    have hsame {m : Node} (hm : m ∈ tree.nodes) (hother : s.OpenedBy b m) : m = k :=
      hunshared.identity m hm k hkTree (Option.some.inj (hother.symm.trans hopened))
    -- A scope inside the body is neither inside the parameter nor around the function.
    cases h.sees hformed hunshared hf hfunction hb hp hsite hn with
    | own hown => exact .inl hown
    | inside m hm hother _ _ =>
      obtain rfl := hsame
        (Node.mem_nodes_trans (Node.mem_nodes_of_mem_branches hf hparam) hm) hother
      obtain ⟨hmem, hne⟩ := h.mem_nodes_of_openedBy hformed hunshared hb hkTree hopened hsite
      obtain ⟨_, _, hinner, -⟩ := (Node.mem_nodes_iff.mp hmem).resolve_left hne
      have hlabel := hformed.field_eq hunshared hf hparam hbranch
        (hformed.isNaming_of_mem_branches hkTree hinner) hm hk
      exact absurd hlabel (by decide)
    | outward m hm hother hholds _ _ =>
      obtain rfl := hsame hm hother
      exact absurd (Node.mem_nodes_trans hk hholds) (Node.not_mem_nodes_of_mem_branches hbranch)

end Parameters

end Realises

end Store

/-- In a well-formed program without shared nodes, an identifier in a parameter of a function
resolves to something in the scope that the parameters share with the body, to something inside the
parameter, or to something around the function whose name the function's own scope lacks. What the
body alone declares is in the shared scope then, or imported, which no grammar allows in a body. -/
theorem parameters_see {tree : Node} (hformed : tree.WellFormed) (hunshared : tree.Unshared) :
    ∃ s, Store.analyze tree = .ok s ∧
      ∀ f ∈ tree.nodes, Task.IsFunction f → ∀ p, some p ∈ f.params → ∀ n ∈ p.nodes,
        ∀ (id : BindingId) (b : Binding), s.bindingOf? n = some id → s.bindings[id]? = some b →
          s.Sees tree f p n b ∧
          ∀ body, f.child? .body = some body →
            (∀ d ∈ b.declarations, d.identifier ∈ body.nodes) →
              s.opening? b.scope = some ⟨.function, f.id⟩ ∨ b.kind = .imported := by
  obtain ⟨facts, hfacts⟩ := Program.exists_facts hformed
  have hanalyzed : Store.analyze tree = .ok (Store.ofFacts facts) :=
    Store.analyze_eq_ok_iff.mpr ⟨by simp [Node.hasKind, hformed.program], facts, hfacts, rfl⟩
  have hrealises := Store.realises_of_analyze hanalyzed hformed hunshared
  have hcovers := Store.covers_of_analyze hanalyzed hformed hunshared
  refine ⟨Store.ofFacts facts, hanalyzed, fun f hf hfunction p hp n hn id b hid hb ↦ ?_⟩
  have hnTree := Node.mem_nodes_trans
    (Node.mem_nodes_of_mem_branches hf (Node.mem_items_iff.mp hp)) hn
  rw [hcovers.bindingOf?_eq hunshared hnTree] at hid
  obtain ⟨b', hb', site, hsite, rfl⟩ := (hcovers.site_iff hunshared hnTree id).mp hid
  obtain rfl : b = b' := Option.some.inj (hb.symm.trans hb')
  exact ⟨hrealises.sees hformed hunshared hf hfunction hb hp hsite hn, fun body hbody hdeclared ↦
    hrealises.own_or_imported hformed hunshared hf hfunction hb hp hsite hn hbody hdeclared⟩

namespace Sample

/-- A declaration of one name, as `var x;`. -/
def declaring (index : Nat) (variety text : String) : Node :=
  .mk { id := ⟨index, false⟩, kind := some .variableDeclaration, variety := some variety }
    [(.declarations,
      some (node (index + 1) .variableDeclarator [(.id, some (name (index + 2) text))]))]

/-- `a = x + y` -/
def defaulted : Node :=
  node 6 .assignmentPattern [(.left, some (name 7 "a")),
    (.right, some (node 8 .binaryExpression
      [(.left, some (name 9 "x")), (.right, some (name 10 "y"))]))]

/-- `{ var x; { let y; } }` -/
def declaringBody : Node :=
  node 11 .blockStatement [(.body, some (declaring 12 "var" "x")),
    (.body, some (node 15 .blockStatement [(.body, some (declaring 16 "let" "y"))]))]

def defaulting : Node :=
  node 4 .functionDeclaration [(.id, some (name 5 "f")), (.params, some defaulted),
    (.body, some declaringBody)]

/-- `let y; function f(a = x + y) { var x; { let y; } }` -/
def defaults : Node :=
  node 0 .program [(.body, some (declaring 1 "let" "y")), (.body, some defaulting)]

/-- The default refers to the variable of the body and to the one around the function. -/
theorem analyze_defaults : defaults.WellFormed ∧ defaults.Unshared ∧
    ∃ s x y, Store.analyze defaults = .ok s ∧
      s.bindings[3]? = some x ∧ s.bindingOf? (name 9 "x") = some 3 ∧ x.declarations ≠ [] ∧
      (∀ d ∈ x.declarations, d.identifier ∈ declaringBody.nodes) ∧ x.kind ≠ .imported ∧
      s.bindings[0]? = some y ∧ s.bindingOf? (name 10 "y") = some 0 ∧ s.OpenedBy y defaults := by
  have hformed : defaults.WellFormed := ⟨rfl, by decide +kernel⟩
  have hunshared : defaults.Unshared := Node.unshared_of_nodup (by decide +kernel)
  have hobserved : ((Store.analyze defaults).toOption.bind fun s ↦
      s.bindings[3]?.bind fun x ↦ s.bindings[0]?.map fun y ↦
        (s.bindingOf? (name 9 "x"), s.bindingOf? (name 10 "y"),
          x.declarations.map (·.identifier.id), x.kind,
          (s.opening? y.scope).map Opening.node)) =
      some (some 3, some 0, [⟨14, false⟩], .declaration (some "var"), some ⟨0, false⟩) := by
    decide +kernel
  obtain ⟨s, hs, hobserved⟩ := Option.bind_eq_some_iff.mp hobserved
  obtain ⟨x, hx, hobserved⟩ := Option.bind_eq_some_iff.mp hobserved
  obtain ⟨y, hy, hobserved⟩ := Option.map_eq_some_iff.mp hobserved
  obtain ⟨hxOf, hyOf, hdeclared, hkind, hopened⟩ : _ ∧ _ ∧ _ ∧ _ ∧ _ := by
    simpa only [Prod.mk.injEq] using hobserved
  rw [toOption_eq_some_iff] at hs
  refine ⟨hformed, hunshared, s, x, y, hs, hx, hxOf, ?_, fun d hd ↦ ?_, by simp [hkind], hy, hyOf,
    hopened⟩
  · rintro hnone
    simp [hnone] at hdeclared
  · have hid : d.identifier.id = ⟨14, false⟩ := by
      have hmem : d.identifier.id ∈ x.declarations.map (·.identifier.id) :=
        List.mem_map.mpr ⟨d, hd, rfl⟩
      rwa [hdeclared, List.mem_singleton] at hmem
    have hsound := (Store.covers_of_analyze hs hformed hunshared).sound 3 x hx d
      (List.mem_append_left _ hd)
    have hname : name 14 "x" ∈ defaults.nodes := List.mem_of_getElem? (i := 14) rfl
    rw [hunshared.identity _ hsound.1 _ hname hid]
    exact List.mem_of_getElem? (i := 3) rfl

end Sample

/-- The default sees the variable of the body, and past the `let` of the inner block the one around
the function. -/
theorem parameters_see_defaults :
    Sample.defaults.WellFormed ∧ Sample.defaults.Unshared ∧
      ∃ s x y, Store.analyze Sample.defaults = .ok s ∧
        s.bindings[3]? = some x ∧ s.bindingOf? (Sample.name 9 "x") = some 3 ∧
        s.Sees Sample.defaults Sample.defaulting Sample.defaulted (Sample.name 9 "x") x ∧
        s.opening? x.scope = some ⟨.function, Sample.defaulting.id⟩ ∧
        s.bindings[0]? = some y ∧ s.bindingOf? (Sample.name 10 "y") = some 0 ∧
        s.Sees Sample.defaults Sample.defaulting Sample.defaulted (Sample.name 10 "y") y ∧
        s.OpenedBy y Sample.defaults := by
  obtain ⟨hformed, hunshared, s, x, y, hs, hx, hxOf, -, hbody, hkind, hy, hyOf, houter⟩ :=
    Sample.analyze_defaults
  obtain ⟨_, hs', hsees⟩ := parameters_see hformed hunshared
  obtain rfl := Except.ok.inj (hs.symm.trans hs')
  have hfunction : Sample.defaulting ∈ Sample.defaults.nodes := List.mem_of_getElem? (i := 4) rfl
  have hparam : some Sample.defaulted ∈ Sample.defaulting.params := List.mem_singleton_self _
  obtain ⟨hx', hown⟩ := hsees _ hfunction (.inl rfl) _ hparam (Sample.name 9 "x")
    (List.mem_of_getElem? (i := 3) rfl) 3 x hxOf hx
  obtain ⟨hy', -⟩ := hsees _ hfunction (.inl rfl) _ hparam (Sample.name 10 "y")
    (List.mem_of_getElem? (i := 4) rfl) 0 y hyOf hy
  exact ⟨hformed, hunshared, s, x, y, hs, hx, hxOf, hx', (hown _ rfl hbody).resolve_right hkind,
    hy, hyOf, hy', houter⟩

/-- The default refers to a variable that is declared in the body and nowhere else. -/
theorem body_seen_by_default :
    ∃ s b, Store.analyze Sample.defaults = .ok s ∧ Sample.defaults.WellFormed ∧
      Sample.defaults.Unshared ∧ Sample.defaulting ∈ Sample.defaults.nodes ∧
      Task.IsFunction Sample.defaulting ∧ some Sample.defaulted ∈ Sample.defaulting.params ∧
      Sample.defaulted.child? .right = some (Sample.node 8 .binaryExpression
        [(.left, some (Sample.name 9 "x")), (.right, some (Sample.name 10 "y"))]) ∧
      Sample.defaulting.child? .body = some Sample.declaringBody ∧
      s.bindingOf? (Sample.name 9 "x") = some 3 ∧ s.bindings[3]? = some b ∧
      b.declarations ≠ [] ∧ ∀ d ∈ b.declarations, d.identifier ∈ Sample.declaringBody.nodes := by
  obtain ⟨hformed, hunshared, s, x, -, hs, hx, hxOf, hsome, hbody, -⟩ := Sample.analyze_defaults
  exact ⟨s, x, hs, hformed, hunshared, List.mem_of_getElem? (i := 4) rfl, .inl rfl,
    List.mem_singleton_self _, rfl, rfl, hxOf, hx, hsome, hbody⟩

end Relabel
