import Mathlib.Data.List.Nodup
import Relabel.Proofs.Scope.Collection
import Relabel.Proofs.Scope.Sharing

/-!
# The analysis follows the rules of lexical scoping

The store of a well-formed program without shared nodes has exactly the scopes, bindings and
references that the rules of lexical scoping give. Scopes are told apart by the nodes that open
them, so that what the rules say of a scope can be found under its number.
-/

namespace Relabel

open Lexical (Mark)

namespace Node

theorem nodes_eq_edges (n : Node) : n.nodes = n :: n.edges.map Edge.child := by
  induction n using Node.induction with
  | step n ih =>
    rw [nodes_eq, edges_eq, List.map_flatMap]
    congr 1
    apply List.flatMap_congr
    intro c hc
    exact ih c.1 c.2 (mem_children_iff.mp hc)

theorem size_le_of_mem_nodes {tree n : Node} (h : n ∈ tree.nodes) : n.size ≤ tree.size := by
  induction tree using Node.induction with
  | step tree ih =>
    obtain rfl | ⟨field, child, hchild, hn⟩ := mem_nodes_iff.mp h
    · exact Nat.le_refl _
    · exact (ih field child hchild hn).trans (size_lt_of_mem_branches hchild).le

/-- A tree in which every path leads to another node. -/
theorem unshared_of_nodup {tree : Node} (h : (tree.nodes.map Node.id).Nodup) : tree.Unshared where
  identity _ hm _ hn hid := List.inj_on_of_nodup_map h hm hn hid
  distinct := by
    rw [nodes_eq_edges, List.map_cons, List.map_map] at h
    exact h.of_cons.sublist (List.filter_sublist.map _)

namespace WellFormed

variable {tree : Node}

theorem namesKeys (h : tree.WellFormed) : tree.NamesKeys := by
  intro n hn hkind hshorthand hshares
  obtain ⟨key, value, hkey, -, -⟩ := sharesKey_iff.mp hshares
  have hadmits := admits_of_isShaped (h.shaped n hn) (mem_branches_of_child? hkey)
  cases hcomputed : n.head.computed with
  | false => rfl
  | true => simp [admits, hkind, hcomputed, hshorthand] at hadmits

/-- What the grammar writes once and means twice is a name. -/
theorem isNaming_of_isLent (h : tree.WellFormed) {e : Edge} (he : e ∈ tree.edges)
    (hlent : e.isLent = true) : e.child.isNaming = true := by
  obtain ⟨hparent, hbranch⟩ := mem_edges_iff.mp he
  have hadmits := admits_of_isShaped (h.shaped e.parent hparent) hbranch
  unfold Edge.isLent at hlent
  split at hlent
  · rename_i hkind hfield
    simpa [admits, hkind, hfield] using hadmits
  · rename_i hkind hfield
    simpa [admits, hkind, hfield] using hadmits
  · rename_i hkind hfield
    rw [Bool.and_eq_true] at hlent
    have hcomputed := h.namesKeys e.parent hparent hkind hlent.1 hlent.2
    have hidentifier : e.child.isIdentifier = true := by
      simpa [admits, hkind, hfield, hcomputed, hlent.1] using hadmits
    simp [isNaming, hidentifier]
  · exact absurd hlent (by simp)

/-- Nodes that are no names are reached by one path each. -/
theorem nodup_ids (h : tree.WellFormed) (hunshared : tree.Unshared) :
    ((tree.nodes.filter fun n ↦ !n.isNaming).map Node.id).Nodup := by
  have hfirst : tree.edges.filter (fun e ↦ !e.child.isNaming) =
      (tree.edges.filter fun e ↦ !e.isLent).filter fun e ↦ !e.child.isNaming := by
    rw [List.filter_filter]
    apply List.filter_congr
    intro e he
    cases hlent : e.isLent with
    | false => simp
    | true => simp [h.isNaming_of_isLent he hlent]
  have hbelow : ((tree.edges.filter fun e ↦ !e.child.isNaming).map (·.child.id)).Nodup := by
    rw [hfirst]
    exact hunshared.distinct.sublist (List.filter_sublist.map _)
  have hroot : tree.isNaming = false := by
    simp [isNaming, isIdentifier, hasKind, h.program]
  rw [nodes_eq_edges, List.filter_cons_of_pos (by simp [hroot]), List.filter_map, List.map_cons,
    List.map_map, List.nodup_cons]
  refine ⟨fun hmem ↦ ?_, hbelow⟩
  obtain ⟨e, he, hid⟩ := List.mem_map.mp hmem
  obtain ⟨hparent, hbranch⟩ := mem_edges_iff.mp (List.mem_of_mem_filter he)
  have hchild := mem_nodes_of_mem_branches hparent hbranch
  have hsame : e.child = tree := hunshared.identity _ hchild _ tree.mem_nodes_self hid
  have hsmaller := size_lt_of_mem_branches hbranch
  have hlarger := size_le_of_mem_nodes hparent
  rw [hsame] at hsmaller
  omega

end WellFormed

end Node

theorem sublist_flatMap {α β : Type} {xs : List α} {f g : α → List β}
    (h : ∀ x ∈ xs, (f x).Sublist (g x)) : (xs.flatMap f).Sublist (xs.flatMap g) := by
  induction xs with
  | nil => exact .refl _
  | cons x rest ih =>
    rw [List.flatMap_cons, List.flatMap_cons]
    exact (h x List.mem_cons_self).append (ih fun y hy ↦ h y (List.mem_cons_of_mem x hy))

namespace Standing

theorem regions_own_sublist (c : Standing) (n : Node) :
    (((c.own n).filterMap Mark.region?).map (·.node)).Sublist
      ([n].filter fun m ↦ !m.isNaming) := by
  unfold own
  by_cases hidentifier : n.isIdentifier = true
  · rw [if_pos hidentifier]
    cases c.use <;> exact List.nil_sublist _
  · rw [if_neg hidentifier]
    cases hopens : c.opens? n with
    | none => exact List.nil_sublist _
    | some type =>
      have hliteral : n.hasKind .literal = false := by
        rw [Bool.eq_false_iff]
        intro hliteral
        have hkind : n.kind = some .literal := by simpa [Node.hasKind] using hliteral
        simp [opens?, hkind] at hopens
      rw [List.filter_cons_of_pos (by simp [Node.isNaming, hidentifier, hliteral])]
      exact .refl _

/-- The nodes that open scopes are read in the order of the nodes. -/
theorem regions_sublist (c : Standing) (n : Node) :
    (((c.marks n).filterMap Mark.region?).map (·.node)).Sublist
      (n.nodes.filter fun m ↦ !m.isNaming) := by
  induction n using Node.induction generalizing c with
  | step n ih =>
    rw [marks_eq, Node.nodes_eq, List.filterMap_append, List.map_append, List.filterMap_flatMap,
      List.map_flatMap, ← List.singleton_append, List.filter_append, List.filter_flatMap]
    apply (c.regions_own_sublist n).append
    apply sublist_flatMap
    intro x hx
    exact ih x.1 x.2 (Node.mem_children_iff.mp hx) _

end Standing

theorem Lexical.nodup_regions {tree : Node} (h : tree.WellFormed) (hunshared : tree.Unshared) :
    ((regions tree).map (·.node.id)).Nodup := by
  have hown : (top tree).own tree = [] := by
    simp [Standing.own, Standing.opens?, Node.isIdentifier, Node.hasKind, h.program]
  have hbelow : ((((top tree).marks tree).filterMap Mark.region?).map (·.node)).Sublist
      ((tree.children.flatMap (·.2.nodes)).filter fun m ↦ !m.isNaming) := by
    rw [Standing.marks_eq, hown, List.nil_append, List.filterMap_flatMap, List.map_flatMap,
      List.filter_flatMap]
    exact sublist_flatMap fun x _ ↦ Standing.regions_sublist _ x.2
  have hroot : tree.isNaming = false := by
    simp [Node.isNaming, Node.isIdentifier, Node.hasKind, h.program]
  have hnodes := h.nodup_ids hunshared
  rw [Node.nodes_eq, List.filter_cons_of_pos (by simp [hroot])] at hnodes
  have hregions := (hbelow.cons_cons tree).map Node.id
  rw [List.map_cons, List.map_map] at hregions
  exact hnodes.sublist hregions

section Sorted

variable (ν : Numbering) (facts : List Fact)

theorem filterMap_region?_marks :
    (facts.flatMap (Fact.marks ν)).filterMap Mark.region? =
      (facts.filterMap Fact.core?).map fun core ↦ ⟨core.1, core.2.1, core.2.2.elim [] ν⟩ := by
  induction facts with
  | nil => rfl
  | cons fact rest ih =>
    rw [List.flatMap_cons, List.filterMap_append, ih]
    cases fact <;> rfl

theorem filterMap_declaration?_marks :
    (facts.flatMap (Fact.marks ν)).filterMap Mark.declaration? =
      (facts.filterMap Fact.declaration?).map fun d ↦
        ⟨(ν d.1).head?, d.2.1, d.2.2.occurrence ν⟩ := by
  induction facts with
  | nil => rfl
  | cons fact rest ih =>
    rw [List.flatMap_cons, List.filterMap_append, ih]
    cases fact <;> rfl

theorem filterMap_reference?_marks :
    (facts.flatMap (Fact.marks ν)).filterMap Mark.reference? =
      (Fact.referredSites facts).map (Site.occurrence ν) := by
  induction facts with
  | nil => rfl
  | cons fact rest ih =>
    rw [List.flatMap_cons, List.filterMap_append, ih]
    cases fact <;> rfl

end Sorted

/-! ## The store of a program -/

namespace Store

variable {s : Store} {tree : Node}

/-- The facts about a program, and the store that they describe, with its numbering. -/
structure Surveyed (tree : Node) (facts : List Fact) : Prop where
  wellFormed : tree.WellFormed
  unshared : tree.Unshared
  facts : Program.facts tree = .ok facts

namespace Surveyed

variable {facts : List Fact}

theorem fit (h : Surveyed tree facts) : Fact.Fit {} facts :=
  (Program.fit_facts h.facts).1

theorem scopes_ofFacts (facts : List Fact) :
    (ofFacts facts).scopes = (facts.foldl learn {}).scopes := by
  rw [ofFacts_eq, scopes_foldl_resolve]

theorem perm_marks (h : Surveyed tree facts) :
    (facts.flatMap (Fact.marks (ofFacts facts).numbering)).Perm (Lexical.marks tree) := by
  apply Program.perm_marks h.wellFormed h.facts
  rw [numbering_of_scopes (scopes_ofFacts facts)]
  exact numbers_foldl_learn h.fit

theorem perm_regions (h : Surveyed tree facts) :
    (ofFacts facts).regions.Perm (Lexical.regions tree) := by
  have hcores : (ofFacts facts).scopes.toList.map Scope.core = facts.filterMap Fact.core? := by
    rw [scopes_ofFacts, cores_foldl_learn]
    rfl
  have hregions : (ofFacts facts).regions = ((ofFacts facts).scopes.toList.map Scope.core).map
      fun core ↦ ⟨core.1, core.2.1, core.2.2.elim [] (ofFacts facts).numbering⟩ := by
    rw [List.map_map]
    rfl
  rw [hregions, hcores, ← filterMap_region?_marks]
  exact h.perm_marks.filterMap _

theorem perm_declarations (h : Surveyed tree facts) :
    ((facts.filterMap Fact.declaration?).map fun d ↦ Lexical.Declaration.mk
      ((ofFacts facts).opening? d.1) d.2.1 (d.2.2.occurrence (ofFacts facts).numbering)).Perm
        (Lexical.declarations tree) := by
  simp only [← head?_numbering]
  rw [← filterMap_declaration?_marks]
  exact h.perm_marks.filterMap _

theorem perm_references (h : Surveyed tree facts) :
    ((Fact.referredSites facts).map (Site.occurrence (ofFacts facts).numbering)).Perm
      (Lexical.references tree) := by
  rw [← filterMap_reference?_marks]
  exact h.perm_marks.filterMap _

/-- Two scopes with one opening are one scope. -/
theorem opening?_inj (h : Surveyed tree facts) {i j : ScopeId} {scope : Opening}
    (hi : (ofFacts facts).opening? i = some scope) (hj : (ofFacts facts).opening? j = some scope) :
    i = j := by
  have hnodup : ((ofFacts facts).scopes.toList.map (·.node.id)).Nodup := by
    have hids := (h.perm_regions.map (·.node.id)).nodup_iff.mpr
      (Lexical.nodup_regions h.wellFormed h.unshared)
    rwa [Store.regions, List.map_map] at hids
  obtain ⟨a, ha, rfl⟩ := Option.map_eq_some_iff.mp hi
  obtain ⟨b, hb, hopening⟩ := Option.map_eq_some_iff.mp hj
  have hlt := (Array.getElem?_eq_some_iff.mp ha).1
  apply (List.getElem?_inj (by simpa using hlt) hnodup).mp
  rw [List.getElem?_map, List.getElem?_map, Array.getElem?_toList, Array.getElem?_toList, ha, hb]
  exact congrArg some (congrArg Opening.node hopening).symm

/-- A scope takes a declaration of a name if its table has the name. -/
theorem binds_iff (h : Surveyed tree facts) {id : ScopeId} {scope : Opening}
    (hid : (ofFacts facts).opening? id = some scope) (name : String) :
    Lexical.binds tree name scope = ((ofFacts facts).own? id name).isSome := by
  have hcollects := collects_ofFacts h.fit
  have hconsistent := consistent_ofFacts h.fit
  rw [Bool.eq_iff_iff, Lexical.binds, List.any_eq_true]
  simp only [Bool.and_eq_true, beq_iff_eq, ← h.perm_declarations.mem_iff, List.mem_map]
  constructor
  · rintro ⟨d, ⟨stated, hstated, rfl⟩, htarget, hname⟩
    have hsome := hcollects.complete stated hstated
    rwa [h.opening?_inj htarget hid, show stated.2.2.name = name from hname] at hsome
  · intro hsome
    obtain ⟨found, hfound⟩ := Option.isSome_iff_exists.mp hsome
    obtain ⟨b, hb, rfl, rfl⟩ := (hconsistent.own_iff _ _ _).mp hfound
    obtain ⟨d, hd, htarget, hname, -⟩ := hcollects.kind found b hb
    exact ⟨_, ⟨d, hd, rfl⟩, by rw [htarget, hid], hname⟩

/-- The scope of the binding that a store finds. -/
def binder? (s : Store) (found : Option BindingId) : Option Opening :=
  (found.bind (s.bindings[·]?)).bind fun b ↦ s.opening? b.scope

/-- A name is bound in the scope in which it is found. -/
theorem binder?_eq (h : Surveyed tree facts) (site : Site) :
    Lexical.binder? tree (site.occurrence (ofFacts facts).numbering) =
      binder? (ofFacts facts) ((ofFacts facts).lookup? site.scope site.name) := by
  have hconsistent := consistent_ofFacts h.fit
  have hscopes (scopes : List ScopeId) :
      (scopes.filterMap (ofFacts facts).opening?).find? (Lexical.binds tree site.name) =
        binder? (ofFacts facts) (scopes.findSome? ((ofFacts facts).own? · site.name)) := by
    induction scopes with
    | nil => rfl
    | cons id rest ih =>
      cases hopening : (ofFacts facts).opening? id with
      | none =>
        have hown : (ofFacts facts).own? id site.name = none := by
          have hscope : (ofFacts facts).scopes[id]? = none := Option.map_eq_none_iff.mp hopening
          rw [own?, hscope]
          rfl
        rw [List.filterMap_cons_none hopening, ih, List.findSome?_cons, hown]
      | some scope =>
        rw [List.filterMap_cons_some hopening, List.find?_cons, h.binds_iff hopening,
          List.findSome?_cons]
        cases hown : (ofFacts facts).own? id site.name with
        | none => exact ih
        | some found =>
          obtain ⟨b, hb, rfl, -⟩ := (hconsistent.own_iff _ _ _).mp hown
          simp [binder?, hb, hopening]
  exact hscopes _

/-- A name refers to a binding if it is the binding's name, and is bound in its scope. -/
theorem lookup?_eq_some_iff (h : Surveyed tree facts) {id : BindingId} {b : Binding}
    (hb : (ofFacts facts).bindings[id]? = some b) {scope : Opening}
    (hscope : (ofFacts facts).opening? b.scope = some scope) (site : Site) :
    (ofFacts facts).lookup? site.scope site.name = some id ↔ site.name = b.name ∧
      Lexical.binder? tree (site.occurrence (ofFacts facts).numbering) = some scope := by
  have hconsistent := consistent_ofFacts h.fit
  rw [h.binder?_eq]
  constructor
  · intro hfound
    obtain ⟨found, hbinding, hname, -⟩ := hconsistent.lookup?_some hfound
    obtain rfl : found = b := Option.some.inj (hbinding.symm.trans hb)
    exact ⟨hname.symm, by simp [binder?, hfound, hb, hscope]⟩
  · rintro ⟨hname, hbinder⟩
    obtain ⟨found, hfound, hopening⟩ := Option.bind_eq_some_iff.mp hbinder
    obtain ⟨other, hother, hbinding⟩ := Option.bind_eq_some_iff.mp hfound
    obtain ⟨c, hc, hcname, -⟩ := hconsistent.lookup?_some hother
    obtain rfl : c = found := Option.some.inj (hc.symm.trans hbinding)
    have hsame : c.scope = b.scope := h.opening?_inj hopening hscope
    rw [hother, hconsistent.binding_inj hc hb hsame (hcname.trans hname)]

end Surveyed

/-- A binding is what the rules say about its name in its scope: the declarations of the name that
the scope takes, and the references that are bound there. -/
structure Groups (s : Store) (tree : Node) (b : Binding) (scope : Opening) : Prop where
  opening : s.opening? b.scope = some scope
  kind : ∃ d ∈ Lexical.declarations tree, d.target = some scope ∧ d.name = b.name ∧ d.kind = b.kind
  declarations : (b.declarations.map (Site.occurrence s.numbering)).Perm
    (((Lexical.declarations tree).filter fun d ↦ d.target = some scope ∧ d.name = b.name).map
      (·.occurrence))
  references : (b.references.map (Site.occurrence s.numbering)).Perm
    ((Lexical.references tree).filter fun o ↦
      o.name = b.name ∧ Lexical.binder? tree o = some scope)

/-- A store says what the rules of lexical scoping say about a program. -/
structure Realises (s : Store) (tree : Node) : Prop where
  scopes : s.regions.Perm (Lexical.regions tree)
  bindings : ∀ (id : BindingId) (b : Binding), s.bindings[id]? = some b →
    ∃ scope, s.Groups tree b scope
  declared : ∀ d ∈ Lexical.declarations tree, ∃ (id : BindingId) (b : Binding),
    s.bindings[id]? = some b ∧ s.opening? b.scope = d.target ∧ b.name = d.name
  unique : ∀ (i j : BindingId) (b c : Binding), s.bindings[i]? = some b → s.bindings[j]? = some c →
    b.scope = c.scope → b.name = c.name → i = j
  owner : ∀ (id : BindingId) (b : Binding), s.bindings[id]? = some b → ∀ site ∈ b.sites,
    s.bindingOf? site.identifier = some id
  free : s.free.Perm (((Lexical.references tree).filter fun o ↦
    Lexical.binder? tree o = none).map (·.identifier.id))

theorem filter_map_perm {α β : Type} {xs : List α} {f : α → β} {ys : List β} {p : β → Bool}
    {q : α → Bool} (hperm : (xs.map f).Perm ys) (hpq : ∀ x ∈ xs, p (f x) = q x) :
    ((xs.filter q).map f).Perm (ys.filter p) := by
  have hfilter : xs.filter q = xs.filter (p ∘ f) :=
    List.filter_congr fun x hx ↦ (hpq x hx).symm
  rw [hfilter, ← List.filter_map]
  exact hperm.filter p

namespace Surveyed

variable {facts : List Fact}

theorem exists_opening (h : Surveyed tree facts) {id : BindingId} {b : Binding}
    (hb : (ofFacts facts).bindings[id]? = some b) :
    ∃ scope, (ofFacts facts).opening? b.scope = some scope := by
  have hown := (consistent_ofFacts h.fit).own hb
  obtain ⟨scope, hscope, -⟩ := Option.bind_eq_some_iff.mp hown
  exact ⟨scope.opening, by rw [opening?, hscope]; rfl⟩

theorem groups (h : Surveyed tree facts) {id : BindingId} {b : Binding}
    (hb : (ofFacts facts).bindings[id]? = some b) :
    ∃ scope, (ofFacts facts).Groups tree b scope := by
  have hcollects := collects_ofFacts h.fit
  have hconsistent := consistent_ofFacts h.fit
  obtain ⟨scope, hscope⟩ := h.exists_opening hb
  have htarget {id : ScopeId} : (ofFacts facts).opening? id = some scope ↔ id = b.scope := by
    constructor
    · exact fun hid ↦ h.opening?_inj hid hscope
    · rintro rfl
      exact hscope
  refine ⟨scope, hscope, ?_, ?_, ?_⟩
  · obtain ⟨d, hd, hdtarget, hname, hkind⟩ := hcollects.kind id b hb
    refine ⟨_, h.perm_declarations.mem_iff.mp (List.mem_map.mpr ⟨d, hd, rfl⟩), ?_, hname, hkind⟩
    exact htarget.mpr hdtarget
  · have hperm := filter_map_perm h.perm_declarations
      (p := fun d ↦ d.target = some scope ∧ d.name = b.name)
      (q := fun d ↦ d.1 = b.scope ∧ d.2.2.name = b.name) fun d _ ↦ by
        simp only [htarget]
        rfl
    have hoccurrences := hperm.map (·.occurrence)
    rw [List.map_map] at hoccurrences
    rw [hcollects.declarations id b hb, List.map_map]
    exact hoccurrences
  · have hreferences : b.references = (Fact.referredSites facts).filter fun site ↦
        (ofFacts facts).lookup? site.scope site.name = some id := by
      rw [hconsistent.sites id b hb, refer, List.filter_map, List.map_map]
      exact List.map_id _
    rw [hreferences]
    apply filter_map_perm h.perm_references
    intro site _
    simp only [h.lookup?_eq_some_iff hb hscope]
    rfl

theorem unbound_refer (s : Store) (sites : List Site) :
    ((s.refer sites).map Reference.outline).filterMap unbound? =
      (sites.filter fun site ↦ s.lookup? site.scope site.name = none).map Site.id := by
  induction sites with
  | nil => rfl
  | cons site rest ih =>
    have hcons : s.refer (site :: rest) =
      ⟨site, s.lookup? site.scope site.name⟩ :: s.refer rest := rfl
    rw [hcons, List.map_cons]
    by_cases hfound : s.lookup? site.scope site.name = none
    · rw [List.filter_cons_of_pos (by simpa using hfound),
        List.filterMap_cons_some (by simp [unbound?, Reference.outline, hfound]; rfl), ih]
      rfl
    · rw [List.filter_cons_of_neg (by simpa using hfound),
        List.filterMap_cons_none (by simp [unbound?, Reference.outline, hfound]), ih]

theorem free_ofFacts (facts : List Fact) :
    (ofFacts facts).free = (((Fact.referredSites facts).filter fun site ↦
      (ofFacts facts).lookup? site.scope site.name = none).map Site.id).reverse := by
  rw [← unbound_refer, ofFacts_eq, free_foldl_resolve, free_foldl_learn, List.append_nil,
    refer_congr _ (lookup?_foldl_resolve (Fact.referredSites facts) _)]

theorem perm_free (h : Surveyed tree facts) :
    (ofFacts facts).free.Perm (((Lexical.references tree).filter fun o ↦
      Lexical.binder? tree o = none).map (·.identifier.id)) := by
  have hunbound (site : Site) :
      Lexical.binder? tree (site.occurrence (ofFacts facts).numbering) = none ↔
        (ofFacts facts).lookup? site.scope site.name = none := by
    rw [h.binder?_eq]
    cases hfound : (ofFacts facts).lookup? site.scope site.name with
    | none => simp [binder?]
    | some id =>
      obtain ⟨b, hb, -, -⟩ := (consistent_ofFacts h.fit).lookup?_some hfound
      obtain ⟨scope, hscope⟩ := h.exists_opening hb
      simp [binder?, hb, hscope]
  have hperm := filter_map_perm h.perm_references
    (p := fun o ↦ Lexical.binder? tree o = none)
    (q := fun site ↦ (ofFacts facts).lookup? site.scope site.name = none) fun site _ ↦ by
      simp only [hunbound]
  have hids := hperm.map (·.identifier.id)
  rw [List.map_map] at hids
  rw [free_ofFacts]
  exact (List.reverse_perm _).trans hids

theorem owner (h : Surveyed tree facts) {id : BindingId} {b : Binding}
    (hb : (ofFacts facts).bindings[id]? = some b) {site : Site} (hsite : site ∈ b.sites) :
    (ofFacts facts).bindingOf? site.identifier = some id := by
  have hvariables := h.unshared.nodup_variableIds h.wellFormed.namesKeys
  have htracks := tracks_ofFacts h.fit (Program.nodup_sites hvariables h.facts)
  obtain ⟨-, hsound⟩ := Program.fit_facts h.facts
  have hidentifier := (eachSite_ofFacts h.fit hsound id b hb site hsite).isIdentifier
  rw [bindingOf?, if_pos hidentifier]
  exact htracks.owner id b hb site hsite

theorem realises (h : Surveyed tree facts) : (ofFacts facts).Realises tree where
  scopes := h.perm_regions
  bindings _ _ hb := h.groups hb
  declared d hd := by
    obtain ⟨stated, hstated, rfl⟩ := List.mem_map.mp (h.perm_declarations.mem_iff.mpr hd)
    have hsome := (collects_ofFacts h.fit).complete stated hstated
    obtain ⟨id, hid⟩ := Option.isSome_iff_exists.mp hsome
    obtain ⟨b, hb, hscope, hname⟩ := ((consistent_ofFacts h.fit).own_iff _ _ _).mp hid
    exact ⟨id, b, hb, by rw [hscope], hname⟩
  unique _ _ _ _ hi hj := (consistent_ofFacts h.fit).binding_inj hi hj
  owner _ _ hb _ hsite := h.owner hb hsite
  free := h.perm_free

end Surveyed

end Store

/-- A well-formed program without shared nodes can be analysed, and the analysis says what the rules
of lexical scoping say. -/
theorem realises_of_wellFormed {tree : Node} (hformed : tree.WellFormed)
    (hunshared : tree.Unshared) : ∃ s, Store.analyze tree = .ok s ∧ s.Realises tree := by
  obtain ⟨facts, hfacts⟩ := Program.exists_facts hformed
  refine ⟨Store.ofFacts facts, Store.analyze_eq_ok_iff.mpr ⟨?_, facts, hfacts, rfl⟩, ?_⟩
  · simp [Node.hasKind, hformed.program]
  · exact Store.Surveyed.realises ⟨hformed, hunshared, hfacts⟩

/-- `var { a = b } = b; function b(a) { for (;;) { var a; } }`, where the last declaration belongs
to the parameter and the default of the first one refers to the function. -/
def Lexical.sample : Node :=
  let node (index : Nat) (kind : Kind) (branches : List (Field × Option Node)) : Node :=
    .mk { id := ⟨index, false⟩, kind := some kind } branches
  let name (index : Nat) (text : String) : Node :=
    .mk { id := ⟨index, false⟩, kind := some .identifier, name := some text } []
  let var (index : Nat) (branches : List (Field × Option Node)) : Node :=
    .mk { id := ⟨index, false⟩, kind := some .variableDeclaration, variety := some "var" } branches
  node 0 .program
    [(.body, some (var 1 [(.declarations, some (node 2 .variableDeclarator
      [(.id, some (node 3 .objectPattern [(.properties, some (.mk
        { id := ⟨4, false⟩, kind := some .property, shorthand := true }
        [(.key, some (name 5 "a")), (.value, some (node 6 .assignmentPattern
          [(.left, some (name 7 "a")), (.right, some (name 8 "b"))]))]))])),
        (.init, some (name 9 "b"))]))])),
      (.body, some (node 10 .functionDeclaration
        [(.id, some (name 11 "b")), (.params, some (name 12 "a")),
          (.body, some (node 13 .blockStatement
            [(.body, some (node 14 .forStatement [(.body, some (node 15 .blockStatement
              [(.body, some (var 16 [(.declarations, some (node 17 .variableDeclarator
                [(.id, some (name 18 "a"))]))]))]))]))]))]))]

theorem realises_of_wellFormed_sample :
    Lexical.sample.WellFormed ∧ Lexical.sample.Unshared ∧
      ∃ s, Store.analyze Lexical.sample = .ok s ∧ s.Realises Lexical.sample := by
  have hformed : Lexical.sample.WellFormed := ⟨rfl, by decide +kernel⟩
  have hunshared : Lexical.sample.Unshared := Node.unshared_of_nodup (by decide +kernel)
  exact ⟨hformed, hunshared, realises_of_wellFormed hformed hunshared⟩

end Relabel
