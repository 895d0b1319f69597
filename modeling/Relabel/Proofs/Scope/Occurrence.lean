import Relabel.Proofs.Scope.Resolution

/-!
# Where names are written

The identifiers that the rules of lexical scoping speak of, with the one path that leads to each. An
identifier that names a property, a label or a member of a module is none of them, and the shorthand
property that is noted with an identifier is the one that has it as its value. The sites of a store
are these identifiers, each with its binding.
-/

namespace Relabel

open Lexical (Mark)

namespace Standing

/-- The nodes of a tree, as they stand. -/
inductive Reaches (c : Standing) (n : Node) : Standing → Node → Prop
  | refl : Reaches c n c n
  | child {d : Standing} {m child : Node} {field : Field} : Reaches c n d m →
      (field, some child) ∈ m.branches → Reaches c n (d.below m field child) child

variable {c d : Standing} {n m child : Node} {field : Field}

theorem Reaches.mem_nodes (h : c.Reaches n d m) : m ∈ n.nodes := by
  induction h with
  | refl => exact n.mem_nodes_self
  | child _ hchild ih => exact Node.mem_nodes_of_mem_branches ih hchild

theorem Reaches.above (hchild : (field, some child) ∈ n.branches)
    (h : (c.below n field child).Reaches child d m) : c.Reaches n d m := by
  induction h with
  | refl => exact .child .refl hchild
  | child _ hmore ih => exact .child ih hmore

/-- What a tree says is said by its nodes where they stand. -/
theorem exists_reaches_of_mem_marks {mark : Mark} (h : mark ∈ c.marks n) :
    ∃ d m, c.Reaches n d m ∧ mark ∈ d.own m := by
  induction n using Node.induction generalizing c with
  | step n ih =>
    rw [marks_eq, List.mem_append, List.mem_flatMap] at h
    rcases h with hown | ⟨⟨field, child⟩, hchild, hmark⟩
    · exact ⟨c, n, .refl, hown⟩
    · have hbranch := Node.mem_children_iff.mp hchild
      obtain ⟨d, m, hreaches, hown⟩ := ih field child hbranch hmark
      exact ⟨d, m, hreaches.above hbranch, hown⟩

theorem useUnder_of_isPropertyName (h : Task.isPropertyName n field = true) (c : Standing)
    (child : Node) : c.useUnder n field child = .name := by
  have hname := h
  unfold Task.isPropertyName at h
  split at h <;> simp_all [useUnder, isPart]

theorem ownerUnder_eq_some {p : Node} (h : c.ownerUnder n field = some p) :
    (n.kind = some .property ∧ field = .value ∧ n.head.shorthand = true ∧ n = p) ∨
      (n.kind = some .assignmentPattern ∧ field = .left ∧ c.owner = some p) := by
  unfold ownerUnder at h
  split at h
  · rename_i hkind
    rw [Option.ite_none_right_eq_some] at h
    exact .inl ⟨hkind, rfl, h.1, Option.some.inj h.2⟩
  · rename_i hkind
    exact .inr ⟨hkind, rfl, h⟩
  · simp at h

end Standing

namespace Lexical

def Mark.occurrence? : Mark → Option Occurrence
  | opened _ => none
  | declared declaration => some declaration.occurrence
  | referred occurrence => some occurrence

/-- The places of a program where a name is declared or referred to. -/
def occurrences (tree : Node) : List Occurrence :=
  (marks tree).filterMap Mark.occurrence?

/-- How an occurrence came about: its identifier stands under a label of its parent that is not for
the names of properties. -/
structure Stands (tree : Node) (o : Occurrence) (d : Standing) (field : Field) : Prop where
  parent : (top tree).Reaches tree d o.parent
  child : (field, some o.identifier) ∈ o.parent.branches
  isIdentifier : o.identifier.isIdentifier = true
  notName : Task.isPropertyName o.parent field = false
  owner : o.owner = d.ownerUnder o.parent field

end Lexical

theorem Standing.occurrence_of_mem_own {c : Standing} {n : Node} {mark : Mark} {o : Occurrence}
    (hmark : mark ∈ c.own n) (ho : mark.occurrence? = some o) :
    n.isIdentifier = true ∧ c.use ≠ .name ∧ o = c.occurrence n := by
  unfold own at hmark
  by_cases hidentifier : n.isIdentifier = true
  · rw [if_pos hidentifier] at hmark
    refine ⟨hidentifier, ?_⟩
    cases huse : c.use <;> simp_all [Mark.occurrence?]
  · rw [if_neg hidentifier] at hmark
    cases hopens : c.opens? n <;> simp_all [Mark.occurrence?]

/-- Where a name is written an identifier stands, which is not used as the name of a property. -/
theorem Lexical.exists_reaches_of_mem_occurrences {tree : Node} {o : Occurrence}
    (ho : o ∈ occurrences tree) : ∃ c n, (top tree).Reaches tree c n ∧ n.isIdentifier = true ∧
      c.use ≠ .name ∧ o = c.occurrence n := by
  obtain ⟨mark, hmark, hoccurrence⟩ := List.mem_filterMap.mp ho
  rw [marks, List.mem_cons] at hmark
  rcases hmark with rfl | hmark
  · simp [Mark.occurrence?] at hoccurrence
  obtain ⟨c, n, hreaches, hown⟩ := Standing.exists_reaches_of_mem_marks hmark
  exact ⟨c, n, hreaches, Standing.occurrence_of_mem_own hown hoccurrence⟩

namespace Node.WellFormed

variable {tree : Node} {o : Occurrence}

/-- An identifier that names no property stands under a parent, which says what it is used for. -/
theorem stands_of_reaches (h : tree.WellFormed) {c : Standing} {n : Node}
    (hreaches : (Lexical.top tree).Reaches tree c n) (hidentifier : n.isIdentifier = true)
    (huse : c.use ≠ .name) :
    ∃ d field, Lexical.Stands tree (c.occurrence n) d field ∧
      d.useUnder (c.occurrence n).parent field n = c.use := by
  cases hreaches with
  | refl =>
    rw [isIdentifier_iff, h.program] at hidentifier
    exact absurd hidentifier (by decide)
  | @child d parent _ field hparent hchild =>
    refine ⟨d, field, ⟨hparent, hchild, hidentifier, ?_, rfl⟩, rfl⟩
    rw [Bool.eq_false_iff]
    exact fun hname ↦ huse (Standing.useUnder_of_isPropertyName hname d n)

theorem exists_stands (h : tree.WellFormed) (ho : o ∈ Lexical.occurrences tree) :
    ∃ d field, Lexical.Stands tree o d field := by
  obtain ⟨c, n, hreaches, hidentifier, huse, rfl⟩ := Lexical.exists_reaches_of_mem_occurrences ho
  obtain ⟨d, field, hstands, -⟩ := h.stands_of_reaches hreaches hidentifier huse
  exact ⟨d, field, hstands⟩

/-- The value of a property that is not written out. -/
theorem child?_value (h : tree.WellFormed) {p value : Node} (hp : p ∈ tree.nodes)
    (hkind : p.kind = some .property) (hvalue : (Field.value, some value) ∈ p.branches) :
    p.child? .value = some value :=
  child?_eq_some_of_mem (length_items_of_isShaped (h.shaped p hp) hkind rfl (by decide) (by decide))
    hvalue

theorem child?_left (h : tree.WellFormed) {n left : Node} (hn : n ∈ tree.nodes)
    (hkind : n.kind = some .assignmentPattern) (hleft : (Field.left, some left) ∈ n.branches) :
    n.child? .left = some left :=
  child?_eq_some_of_mem (length_items_of_isShaped (h.shaped n hn) hkind rfl (by decide) (by decide))
    hleft

/-- What a shorthand property carries is an identifier. -/
theorem isIdentifier_of_carried? (h : tree.WellFormed) {p carried : Node} (hp : p ∈ tree.nodes)
    (hkind : p.kind = some .property) (hshorthand : p.head.shorthand = true)
    (hcarried : p.carried? = some carried) : carried.isIdentifier = true := by
  obtain ⟨value, hvalue, -⟩ := Option.bind_eq_some_iff.mp hcarried
  have hadmits := admits_of_isShaped (h.shaped p hp) (mem_branches_of_child? hvalue)
  simpa [admits, hkind, hshorthand, hcarried] using hadmits

/-- A node that stands with an owner is the owner's value, or the target of it. -/
theorem owner_of_reaches (h : tree.WellFormed) {d : Standing} {n p : Node}
    (hreaches : (Lexical.top tree).Reaches tree d n) (howner : d.owner = some p) :
    p ∈ tree.nodes ∧ p.kind = some .property ∧ p.head.shorthand = true ∧
      (p.child? .value = some n ∨ ∃ value, p.child? .value = some value ∧
        value.kind = some .assignmentPattern ∧ value.child? .left = some n) := by
  induction hreaches with
  | refl => simp [Lexical.top] at howner
  | @child d m child field hm hchild ih =>
    rcases Standing.ownerUnder_eq_some howner with
      ⟨hkind, rfl, hshorthand, rfl⟩ | ⟨hkind, rfl, houter⟩
    · exact ⟨hm.mem_nodes, hkind, hshorthand, .inl (h.child?_value hm.mem_nodes hkind hchild)⟩
    · have hleft := h.child?_left hm.mem_nodes hkind hchild
      obtain ⟨hp, hproperty, hshorthand, hvalue | ⟨value, hvalue, hpattern, htarget⟩⟩ := ih houter
      · exact ⟨hp, hproperty, hshorthand, .inr ⟨m, hvalue, hkind, hleft⟩⟩
      · -- The target of the value is an identifier, and cannot be a pattern with a default.
        have hcarried : p.carried? = some m := by
          simp [carried?, hvalue, hasKind, hpattern, htarget]
        have hidentifier := h.isIdentifier_of_carried? hp hproperty hshorthand hcarried
        rw [isIdentifier_iff, hkind] at hidentifier
        exact absurd hidentifier (by decide)

/-- The owner of an identifier is a shorthand property that carries it. -/
theorem carried?_of_owner (h : tree.WellFormed) (ho : o ∈ Lexical.occurrences tree) {p : Node}
    (howner : o.owner = some p) : p ∈ tree.nodes ∧ p.kind = some .property ∧
      p.head.shorthand = true ∧ p.carried? = some o.identifier := by
  obtain ⟨d, field, hstands⟩ := h.exists_stands ho
  have hreaches := hstands.parent.child hstands.child
  obtain ⟨hp, hkind, hshorthand, hvalue | ⟨value, hvalue, hpattern, htarget⟩⟩ :=
    h.owner_of_reaches hreaches (hstands.owner.symm.trans howner)
  · have hidentifier := isIdentifier_iff.mp hstands.isIdentifier
    refine ⟨hp, hkind, hshorthand, ?_⟩
    simp [carried?, hvalue, hasKind, hidentifier]
  · refine ⟨hp, hkind, hshorthand, ?_⟩
    simp [carried?, hvalue, hasKind, hpattern, htarget]

end Node.WellFormed

/-- One path leads to a node, apart from those that the grammar lends. -/
theorem Node.Unshared.edge_eq {tree : Node} (h : tree.Unshared) {e e' : Edge}
    (he : e ∈ tree.edges) (he' : e' ∈ tree.edges) (hlent : e.isLent = false)
    (hlent' : e'.isLent = false) (hid : e.child.id = e'.child.id) : e = e' := by
  apply List.inj_on_of_nodup_map h.distinct _ _ hid
  · exact List.mem_filter.mpr ⟨he, by simp [hlent]⟩
  · exact List.mem_filter.mpr ⟨he', by simp [hlent']⟩

namespace Lexical.Stands

variable {tree : Node} {o : Occurrence} {d : Standing} {field : Field}

theorem mem_edges (h : Stands tree o d field) : ⟨o.parent, field, o.identifier⟩ ∈ tree.edges :=
  Node.mem_edges_iff.mpr ⟨h.parent.mem_nodes, h.child⟩

theorem isLent_eq_false (h : Stands tree o d field) (hformed : tree.WellFormed) :
    (Edge.mk o.parent field o.identifier).isLent = false := by
  rw [Bool.eq_false_iff]
  intro hlent
  have hvariable := Node.Unshared.not_isVariable_of_isLent hformed.namesKeys h.mem_edges hlent
  simp [Edge.isVariable, h.isIdentifier, h.notName] at hvariable

end Lexical.Stands

namespace Node.WellFormed

variable {tree : Node} {o : Occurrence}

/-- An identifier that a shorthand property carries has the property as its owner. -/
theorem owner_of_carried? (h : tree.WellFormed) (hunshared : tree.Unshared)
    (ho : o ∈ Lexical.occurrences tree) {p : Node} (hp : p ∈ tree.nodes)
    (hkind : p.kind = some .property) (hshorthand : p.head.shorthand = true)
    (hcarried : p.carried? = some o.identifier) : o.owner = some p := by
  obtain ⟨d, field, hstands⟩ := h.exists_stands ho
  have hlent := hstands.isLent_eq_false h
  obtain ⟨value, hvalue, htarget⟩ := Option.bind_eq_some_iff.mp hcarried
  have hvalueEdge : Edge.mk p .value value ∈ tree.edges :=
    mem_edges_iff.mpr ⟨hp, mem_branches_of_child? hvalue⟩
  have hvalueLent : (Edge.mk p .value value).isLent = false := by simp [Edge.isLent]
  rw [hstands.owner]
  by_cases hpattern : value.hasKind .assignmentPattern = true
  · rw [if_pos hpattern] at htarget
    have hvalueMem := mem_nodes_of_mem_branches hp (mem_branches_of_child? hvalue)
    have htargetEdge : Edge.mk value .left o.identifier ∈ tree.edges :=
      mem_edges_iff.mpr ⟨hvalueMem, mem_branches_of_child? htarget⟩
    have htargetLent : (Edge.mk value .left o.identifier).isLent = false := by simp [Edge.isLent]
    have hedge := hunshared.edge_eq hstands.mem_edges htargetEdge hlent htargetLent rfl
    obtain ⟨hparent, rfl, -⟩ := Edge.mk.inj hedge
    have hkindValue : value.kind = some .assignmentPattern := by simpa [hasKind] using hpattern
    -- The value is no name, so that it stands where the property holds it and nowhere else.
    have hreaches := hstands.parent
    rw [hparent] at hreaches ⊢
    cases hreaches with
    | refl =>
      rw [h.program] at hkindValue
      exact absurd hkindValue (by decide)
    | @child outer holder _ place hholder hchild =>
      have houterEdge : Edge.mk holder place value ∈ tree.edges :=
        mem_edges_iff.mpr ⟨hholder.mem_nodes, hchild⟩
      have houterLent : (Edge.mk holder place value).isLent = false := by
        rw [Bool.eq_false_iff]
        intro hlentOuter
        have hnaming := h.isNaming_of_isLent houterEdge hlentOuter
        simp [isNaming, isIdentifier, hasKind, hkindValue] at hnaming
      obtain ⟨rfl, rfl, -⟩ := Edge.mk.inj
        (hunshared.edge_eq houterEdge hvalueEdge houterLent hvalueLent rfl)
      simp [Standing.ownerUnder, Standing.below, hkindValue, hkind, hshorthand]
  · rw [if_neg hpattern, Option.some.injEq] at htarget
    subst htarget
    obtain ⟨hparent, rfl, -⟩ := Edge.mk.inj
      (hunshared.edge_eq hstands.mem_edges hvalueEdge hlent hvalueLent rfl)
    simp [Standing.ownerUnder, hparent, hkind, hshorthand]

end Node.WellFormed

/-! ## The sites of a store -/

theorem Lexical.mem_occurrences_of_declaration {tree : Node} {d : Declaration}
    (h : d ∈ declarations tree) : d.occurrence ∈ occurrences tree := by
  obtain ⟨mark, hmark, hdeclaration⟩ := List.mem_filterMap.mp h
  refine List.mem_filterMap.mpr ⟨mark, hmark, ?_⟩
  cases mark <;> simp_all [Mark.declaration?, Mark.occurrence?]

theorem Lexical.mem_occurrences_of_reference {tree : Node} {o : Occurrence}
    (h : o ∈ references tree) : o ∈ occurrences tree := by
  obtain ⟨mark, hmark, hreference⟩ := List.mem_filterMap.mp h
  refine List.mem_filterMap.mpr ⟨mark, hmark, ?_⟩
  cases mark <;> simp_all [Mark.reference?, Mark.occurrence?]

/-- What a store knows about the identifiers of a program: which binding each of them belongs to,
how it is spelled, and which shorthand property has it as its value. -/
structure Store.Covers (s : Store) (tree : Node) : Prop where
  /-- Nothing belongs to a binding but its sites. -/
  owns_iff : ∀ x id, s.owners.get? x = some id ↔
    ∃ b, s.bindings[id]? = some b ∧ x ∈ b.sites.map Site.id
  sound : s.EachSite fun site ↦ site.identifier ∈ tree.nodes ∧ site.identifier.isIdentifier = true
  /-- The shorthand property noted with a site is the one that carries the identifier. -/
  carrier_iff : s.EachSite fun site ↦ ∀ p, site.owner = some p ↔ p ∈ tree.nodes ∧
    p.kind = some .property ∧ p.head.shorthand = true ∧ p.carried? = some site.identifier
  /-- The name of a property, a label or a member of a module belongs to no binding. -/
  naming : ∀ e ∈ tree.edges, e.isLent = false → Task.isPropertyName e.parent e.field = true →
    s.owners.get? e.child.id = none
  free : ∀ x ∈ s.free, s.owners.get? x = none
  named : ∀ (id : BindingId) (b : Binding), s.bindings[id]? = some b →
    b.renamed = false ∧ ∀ site ∈ b.sites, site.identifier.head.name = some b.name

namespace Store.Surveyed

variable {tree : Node} {facts : List Fact}

theorem nodup_sites (h : Surveyed tree facts) :
    ((facts.flatMap Fact.sites).map Site.id).Nodup :=
  Program.nodup_sites (h.unshared.nodup_variableIds h.wellFormed.namesKeys) h.facts

theorem tracks (h : Surveyed tree facts) :
    (ofFacts facts).Tracks {} ((ofFacts facts).refer (Fact.referredSites facts)) :=
  tracks_ofFacts h.fit h.nodup_sites

theorem sound (h : Surveyed tree facts) :
    (ofFacts facts).EachSite (Site.Sound (· ∈ tree.nodes)) :=
  eachSite_ofFacts h.fit (Program.fit_facts h.facts).2

/-- A site of a binding is written where the rules say that a name is. -/
theorem mem_occurrences (h : Surveyed tree facts) :
    (ofFacts facts).EachSite fun site ↦
      site.occurrence (ofFacts facts).numbering ∈ Lexical.occurrences tree := by
  intro id b hb site hsite
  obtain ⟨scope, hgroups⟩ := h.groups hb
  rcases List.mem_append.mp hsite with hdeclared | hreferred
  · have hmem := hgroups.declarations.mem_iff.mp (List.mem_map.mpr ⟨site, hdeclared, rfl⟩)
    obtain ⟨d, hd, hoccurrence⟩ := List.mem_map.mp hmem
    rw [← hoccurrence]
    exact Lexical.mem_occurrences_of_declaration (List.mem_of_mem_filter hd)
  · have hmem := hgroups.references.mem_iff.mp (List.mem_map.mpr ⟨site, hreferred, rfl⟩)
    exact Lexical.mem_occurrences_of_reference (List.mem_of_mem_filter hmem)

/-- Nothing has an owner but the sites of bindings. -/
theorem exists_site_of_owner (h : Surveyed tree facts) {x : NodeId} {id : BindingId}
    (howner : (ofFacts facts).owners.get? x = some id) :
    ∃ b, (ofFacts facts).bindings[id]? = some b ∧ ∃ site ∈ b.sites, site.id = x := by
  have hconsistent := consistent_ofFacts h.fit
  have hcollects := collects_ofFacts h.fit
  have hseen : x ∈ (Fact.declaredSites facts).map Site.id ++
      (Fact.referredSites facts).map Site.id := by
    by_contra hunseen
    rw [(owns_ofFacts h.fit h.nodup_sites).unseen x hunseen] at howner
    exact absurd howner (by simp)
  rcases List.mem_append.mp hseen with hdeclared | hreferred
  · obtain ⟨site, hsite, rfl⟩ := List.mem_map.mp hdeclared
    rw [Fact.declaredSites_eq] at hsite
    obtain ⟨d, hd, rfl⟩ := List.mem_map.mp hsite
    obtain ⟨found, hfound⟩ := Option.isSome_iff_exists.mp (hcollects.complete d hd)
    obtain ⟨b, hb, hscope, hname⟩ := (hconsistent.own_iff _ _ _).mp hfound
    have hsite : d.2.2 ∈ b.sites := by
      apply List.mem_append_left
      rw [hcollects.declarations found b hb]
      exact List.mem_map.mpr ⟨d, List.mem_filter.mpr ⟨hd, by simp [hscope, hname]⟩, rfl⟩
    have hsame := (h.tracks.owner found b hb _ hsite).symm.trans howner
    exact ⟨b, Option.some.inj hsame ▸ hb, d.2.2, hsite, rfl⟩
  · obtain ⟨site, hsite, rfl⟩ := List.mem_map.mp hreferred
    have href : (⟨site, (ofFacts facts).lookup? site.scope site.name⟩ : Reference) ∈
        (ofFacts facts).refer (Fact.referredSites facts) := List.mem_map.mpr ⟨site, hsite, rfl⟩
    have hfound := (h.tracks.referrer _ href).symm.trans howner
    obtain ⟨b, hb, -, -⟩ := hconsistent.lookup?_some hfound
    refine ⟨b, hb, site, List.mem_append_right _ ?_, rfl⟩
    rw [hconsistent.mem_references_iff hb]
    rwa [show (ofFacts facts).lookup? site.scope site.name = some id from hfound] at href

theorem owns_iff (h : Surveyed tree facts) (x : NodeId) (id : BindingId) :
    (ofFacts facts).owners.get? x = some id ↔
      ∃ b, (ofFacts facts).bindings[id]? = some b ∧ x ∈ b.sites.map Site.id := by
  constructor
  · intro howner
    obtain ⟨b, hb, site, hsite, hid⟩ := h.exists_site_of_owner howner
    exact ⟨b, hb, List.mem_map.mpr ⟨site, hsite, hid⟩⟩
  · rintro ⟨b, hb, hx⟩
    obtain ⟨site, hsite, rfl⟩ := List.mem_map.mp hx
    exact h.tracks.owner id b hb site hsite

theorem covers (h : Surveyed tree facts) : (ofFacts facts).Covers tree where
  owns_iff := h.owns_iff
  sound id b hb site hsite :=
    ⟨(h.sound id b hb site hsite).mem, (h.sound id b hb site hsite).isIdentifier⟩
  carrier_iff id b hb site hsite p := by
    have ho := h.mem_occurrences id b hb site hsite
    constructor
    · exact fun howner ↦ h.wellFormed.carried?_of_owner ho howner
    · rintro ⟨hp, hkind, hshorthand, hcarried⟩
      exact h.wellFormed.owner_of_carried? h.unshared ho hp hkind hshorthand hcarried
  naming e he hlent hname := by
    by_contra hsome
    obtain ⟨id, howner⟩ := Option.ne_none_iff_exists'.mp hsome
    obtain ⟨b, hb, site, hsite, hid⟩ := h.exists_site_of_owner howner
    obtain ⟨d, field, hstands⟩ := h.wellFormed.exists_stands (h.mem_occurrences id b hb site hsite)
    have hedge := h.unshared.edge_eq hstands.mem_edges he (hstands.isLent_eq_false h.wellFormed)
      hlent hid
    have hnot := hstands.notName
    rw [← hedge] at hname
    exact absurd (hname.symm.trans hnot) (by simp)
  free x hx := by
    rw [free_ofFacts, List.mem_reverse, List.mem_map] at hx
    obtain ⟨site, hsite, rfl⟩ := hx
    obtain ⟨hmem, hlookup⟩ := List.mem_filter.mp hsite
    have hunbound := of_decide_eq_true hlookup
    exact h.tracks.referrer ⟨site, none⟩ (List.mem_map.mpr ⟨site, hmem, by rw [hunbound]⟩)
  named id b hb := by
    refine ⟨(collects_ofFacts h.fit).renamed id b hb, fun site hsite ↦ ?_⟩
    have hsound := h.sound id b hb site hsite
    obtain ⟨name, hname⟩ := Node.exists_name_of_isShaped (h.wellFormed.shaped _ hsound.mem)
      hsound.isIdentifier
    have hspelled := h.tracks.spelled id b hb site hsite
    rw [Site.spelling_empty, Site.name, hname] at hspelled
    rw [hname, ← hspelled]
    rfl

end Store.Surveyed

/-- The analysis of a well-formed program without shared nodes covers its identifiers. -/
theorem Store.covers_of_analyze {tree : Node} {s : Store} (h : analyze tree = .ok s)
    (hformed : tree.WellFormed) (hunshared : tree.Unshared) : s.Covers tree := by
  obtain ⟨-, facts, hfacts, rfl⟩ := analyze_eq_ok_iff.mp h
  exact Surveyed.covers ⟨hformed, hunshared, hfacts⟩

namespace Store.Covers

variable {s : Store} {tree n : Node}

theorem owner_eq_none_of_not_mem (h : s.Covers tree) {x : NodeId}
    (hx : ∀ n ∈ tree.nodes, n.id ≠ x) : s.owners.get? x = none := by
  by_contra hsome
  obtain ⟨id, howner⟩ := Option.ne_none_iff_exists'.mp hsome
  obtain ⟨b, hb, hmem⟩ := (h.owns_iff x id).mp howner
  obtain ⟨site, hsite, hid⟩ := List.mem_map.mp hmem
  exact hx site.identifier (h.sound id b hb site hsite).1 hid

/-- An identifier belongs to the binding that has it as a site. -/
theorem site_iff (h : s.Covers tree) (hunshared : tree.Unshared) (hn : n ∈ tree.nodes)
    (id : BindingId) : s.owners.get? n.id = some id ↔
      ∃ b, s.bindings[id]? = some b ∧ ∃ site ∈ b.sites, site.identifier = n := by
  rw [h.owns_iff]
  constructor
  · rintro ⟨b, hb, hmem⟩
    obtain ⟨site, hsite, hid⟩ := List.mem_map.mp hmem
    exact ⟨b, hb, site, hsite,
      hunshared.identity _ (h.sound id b hb site hsite).1 n hn hid⟩
  · rintro ⟨b, hb, site, hsite, rfl⟩
    exact ⟨b, hb, List.mem_map.mpr ⟨site, hsite, rfl⟩⟩

/-- Only identifiers belong to bindings. -/
theorem bindingOf?_eq (h : s.Covers tree) (hunshared : tree.Unshared) (hn : n ∈ tree.nodes) :
    s.bindingOf? n = s.owners.get? n.id := by
  unfold bindingOf?
  split
  · rfl
  · rename_i hidentifier
    rw [eq_comm, Option.eq_none_iff_forall_ne_some]
    intro id howner
    obtain ⟨b, hb, site, hsite, rfl⟩ := (h.site_iff hunshared hn id).mp howner
    exact hidentifier (h.sound id b hb site hsite).2

theorem bindingOf?_of_mem_sites (h : s.Covers tree) (hunshared : tree.Unshared) {id : BindingId}
    {b : Binding} (hb : s.bindings[id]? = some b) {site : Site} (hsite : site ∈ b.sites) :
    s.bindingOf? site.identifier = some id := by
  have hmem := (h.sound id b hb site hsite).1
  rw [h.bindingOf?_eq hunshared hmem, h.site_iff hunshared hmem]
  exact ⟨b, hb, site, hsite, rfl⟩

/-- An identifier of a binding is spelled with the binding's name. -/
theorem exists_name (h : s.Covers tree) (hunshared : tree.Unshared) (hn : n ∈ tree.nodes)
    {id : BindingId} (hid : s.bindingOf? n = some id) :
    ∃ b, s.bindings[id]? = some b ∧ n.head.name = some b.name := by
  rw [h.bindingOf?_eq hunshared hn, h.site_iff hunshared hn] at hid
  obtain ⟨b, hb, site, hsite, rfl⟩ := hid
  exact ⟨b, hb, (h.named id b hb).2 site hsite⟩

end Store.Covers

end Relabel
