import Mathlib.Data.List.Perm.Basic
import Mathlib.Data.Option.Basic
import Relabel.Proofs.Scope.Occurrence
import Relabel.Proofs.Scope.Placement
import Relabel.Proofs.Syntax.Walk

/-!
# A census of identifiers

Every identifier of a well-formed program is counted once by the analysis. It is declared, or refers
to something, or stands where only the name of a property, a label or a member of a module can
stand; in the first two cases it is one site of one binding, or one free name. To see this, the
lists of the store are compared with the facts from which they were made, and the facts with the
rules of lexical scoping, which speak of every identifier outside the third class once.
-/

namespace Relabel

open Lexical (Mark)

section Split

variable {α β κ : Type}

theorem flatMap_singleton_of_nodup [DecidableEq κ] {keys : List κ} (hkeys : keys.Nodup) {k : κ}
    (hk : k ∈ keys) (x : α) :
    (keys.flatMap fun other ↦ if k = other then [x] else []) = [x] := by
  induction keys with
  | nil => exact absurd hk List.not_mem_nil
  | cons first rest ih =>
    obtain ⟨hnew, hrest⟩ := List.nodup_cons.mp hkeys
    rw [List.flatMap_cons]
    rcases List.mem_cons.mp hk with rfl | hmem
    · have hnone : (rest.flatMap fun other ↦ if k = other then [x] else []) = [] := by
        rw [List.flatMap_eq_nil_iff]
        intro other hother
        have hother : k ≠ other := fun hsame ↦ hnew (hsame ▸ hother)
        exact if_neg hother
      rw [if_pos rfl, hnone, List.append_nil]
    · have hfirst : k ≠ first := fun hsame ↦ hnew (hsame ▸ hmem)
      rw [if_neg hfirst, List.nil_append, ih hrest hmem]

/-- The parts of a list that have different keys make up the list. -/
theorem perm_flatMap_filter [DecidableEq κ] {keys : List κ} (hkeys : keys.Nodup) {key : α → κ}
    {xs : List α} (hmem : ∀ x ∈ xs, key x ∈ keys) :
    (keys.flatMap fun k ↦ xs.filter fun x ↦ key x = k).Perm xs := by
  induction xs with
  | nil => simp
  | cons x rest ih =>
    have hcons (k : κ) : ((x :: rest).filter fun x ↦ key x = k) =
        (if key x = k then [x] else []) ++ rest.filter fun x ↦ key x = k := by
      by_cases hk : key x = k <;> simp [hk]
    simp only [hcons]
    refine (List.flatMap_append_perm keys _ _).symm.trans ?_
    rw [flatMap_singleton_of_nodup hkeys (hmem x List.mem_cons_self)]
    exact (ih fun y hy ↦ hmem y (List.mem_cons_of_mem x hy)).cons x

/-- Of a list of different things, one is left by a filter once or not at all. -/
theorem count_map_filter [DecidableEq β] {f : α → β} {xs : List α} (hxs : (xs.map f).Nodup) {x : α}
    (hx : x ∈ xs) (p : α → Bool) :
    ((xs.filter p).map f).count (f x) = if p x then 1 else 0 := by
  have hfilter : ((xs.filter p).map f).Nodup := hxs.sublist (List.filter_sublist.map f)
  by_cases hp : p x = true
  · rw [if_pos hp]
    exact List.count_eq_one_of_mem hfilter (List.mem_map.mpr ⟨x, List.mem_filter.mpr ⟨hx, hp⟩, rfl⟩)
  · rw [if_neg hp, List.count_eq_zero]
    intro hmem
    obtain ⟨y, hy, hsame⟩ := List.mem_map.mp hmem
    obtain ⟨hy, hpy⟩ := List.mem_filter.mp hy
    rw [List.inj_on_of_nodup_map hxs hy hx hsame] at hpy
    exact hp hpy

end Split

namespace Store

variable {s : Store} {tree : Node} {facts : List Fact}

/-- The places where bindings are declared. -/
def declarationSites (s : Store) : List Site :=
  s.bindings.toList.flatMap (·.declarations)

/-- The places that bindings list as references. -/
def referenceSites (s : Store) : List Site :=
  s.bindings.toList.flatMap (·.references)

/-- All references of the index. -/
def indexed (s : Store) : List Reference :=
  s.index.values.flatten

/-- If each binding has the things that belong to it, all bindings together have what belongs to
any. -/
theorem perm_flatMap_bindings {α β : Type} (xs : List α) (key : α → Option BindingId)
    (view : α → β) (part : Binding → List β)
    (hpart : ∀ (id : BindingId) (b : Binding), s.bindings[id]? = some b →
      part b = (xs.filter fun x ↦ key x = some id).map view)
    (hkey : ∀ x ∈ xs, ∀ id, key x = some id → ∃ b, s.bindings[id]? = some b) :
    (s.bindings.toList.flatMap part).Perm ((xs.filter fun x ↦ (key x).isSome).map view) := by
  let keys := (List.range s.bindings.size).map some
  have hkeys : keys.Nodup := List.nodup_range.map (Option.some_injective _)
  have hparts : s.bindings.toList.map part = (List.range s.bindings.size).map fun id ↦
      (xs.filter fun x ↦ key x = some id).map view := by
    apply List.ext_getElem?
    intro id
    rw [List.getElem?_map, List.getElem?_map, Array.getElem?_toList]
    cases hb : s.bindings[id]? with
    | none => simp [Array.getElem?_eq_none_iff.mp hb]
    | some b => simp [hpart id b hb, List.getElem?_range (Array.getElem?_eq_some_iff.mp hb).1]
  have hfilters (k : BindingId) : (xs.filter fun x ↦ key x = some k) =
      (xs.filter fun x ↦ (key x).isSome).filter fun x ↦ key x = some k := by
    rw [List.filter_filter]
    apply List.filter_congr
    intro x _
    by_cases hk : key x = some k <;> simp [hk]
  have hsplit : s.bindings.toList.flatMap part =
      (keys.flatMap fun k ↦ (xs.filter fun x ↦ (key x).isSome).filter fun x ↦ key x = k).map
        view := by
    rw [List.flatMap_def, hparts, ← List.flatMap_def, List.flatMap_map, List.map_flatMap]
    simp only [← hfilters]
  rw [hsplit]
  refine (perm_flatMap_filter hkeys fun x hx ↦ ?_).map view
  obtain ⟨hx, hsome⟩ := List.mem_filter.mp hx
  obtain ⟨id, hid⟩ := Option.isSome_iff_exists.mp hsome
  obtain ⟨b, hb⟩ := hkey x hx id hid
  rw [hid]
  exact List.mem_map.mpr ⟨id, List.mem_range.mpr (Array.getElem?_eq_some_iff.mp hb).1, rfl⟩

namespace Surveyed

theorem perm_declarationSites (h : Surveyed tree facts) :
    (ofFacts facts).declarationSites.Perm (Fact.declaredSites facts) := by
  have hcollects := collects_ofFacts h.fit
  have hconsistent := consistent_ofFacts h.fit
  have hsplit := perm_flatMap_bindings (s := ofFacts facts) (facts.filterMap Fact.declaration?)
    (fun d ↦ (ofFacts facts).own? d.1 d.2.2.name) (·.2.2) (·.declarations)
    (fun id b hb ↦ by
      rw [hcollects.declarations id b hb]
      congr 1
      apply List.filter_congr
      intro d _
      rw [decide_eq_decide, hconsistent.own_iff]
      constructor
      · rintro ⟨hscope, hname⟩
        exact ⟨b, hb, hscope.symm, hname.symm⟩
      · rintro ⟨other, hother, hscope, hname⟩
        obtain rfl := Option.some.inj (hother.symm.trans hb)
        exact ⟨hscope.symm, hname.symm⟩)
    (fun d _ id hid ↦ by
      obtain ⟨b, hb, -⟩ := (hconsistent.own_iff _ _ _).mp hid
      exact ⟨b, hb⟩)
  rwa [List.filter_eq_self.mpr hcollects.complete, ← Fact.declaredSites_eq] at hsplit

theorem perm_referenceSites (h : Surveyed tree facts) :
    (ofFacts facts).referenceSites.Perm
      ((((ofFacts facts).refer (Fact.referredSites facts)).filter (·.binding.isSome)).map
        (·.site)) := by
  have hconsistent := consistent_ofFacts h.fit
  apply perm_flatMap_bindings (s := ofFacts facts) _ Reference.binding Reference.site
    Binding.references hconsistent.sites
  intro ref href id hid
  obtain ⟨site, -, rfl⟩ := List.mem_map.mp href
  obtain ⟨b, hb, -⟩ := hconsistent.lookup?_some hid
  exact ⟨b, hb⟩

end Surveyed

theorem nodup_keys_index {s : Store} (h : s.index.keys.Nodup) (sites : List Site) :
    (sites.foldl resolve s).index.keys.Nodup := by
  induction sites generalizing s with
  | nil => exact h
  | cons site rest ih =>
    apply ih
    cases hfound : s.lookup? site.scope site.name with
    | none =>
      rw [resolve_of_none hfound]
      exact Table.nodup_keys_set h _ _
    | some id =>
      rw [resolve_of_some hfound]
      exact Table.nodup_keys_set h _ _

theorem index_foldl_learn (facts : List Fact) (s : Store) :
    (facts.foldl learn s).index = s.index := by
  induction facts generalizing s with
  | nil => rfl
  | cons fact rest ih =>
    rw [List.foldl_cons, ih]
    cases fact with
    | declared target kind site =>
      rw [learn, declare]
      cases s.own? target site.name <;> rfl
    | _ => rfl

/-- The index has the references name by name. -/
theorem indexed_eq {s : Store} (h : s.index.keys.Nodup) :
    s.indexed = s.index.keys.flatMap s.filed := by
  calc
    s.indexed = (s.index.values.map some).flatMap (·.getD []) := by
      rw [List.flatMap_map, indexed, ← List.flatMap_id]
      rfl
    _ = s.index.keys.flatMap s.filed := by
      rw [← Table.map_get?_keys h, List.flatMap_map]
      rfl

namespace Surveyed

theorem perm_indexed (h : Surveyed tree facts) :
    (ofFacts facts).indexed.Perm ((ofFacts facts).refer (Fact.referredSites facts)) := by
  have hconsistent := consistent_ofFacts h.fit
  have hkeys : (ofFacts facts).index.keys.Nodup := by
    rw [ofFacts_eq]
    apply nodup_keys_index
    rw [index_foldl_learn]
    exact List.nodup_nil
  rw [indexed_eq hkeys]
  refine (List.Perm.flatMap_left _ fun name _ ↦ hconsistent.index name).trans ?_
  apply perm_flatMap_filter hkeys
  intro ref href
  have hmem := (hconsistent.index ((ofFacts facts).nameOf ref)).mem_iff.mpr
    (List.mem_filter.mpr ⟨href, by simp⟩)
  cases hentry : (ofFacts facts).index.get? ((ofFacts facts).nameOf ref) with
  | none => simp [filed, hentry] at hmem
  | some _ => exact Table.mem_keys_of_get? hentry

end Surveyed

end Store

namespace Edge

/-- Whether an identifier may be declared or refer to something where the edge leads. -/
def isName (e : Edge) : Bool :=
  e.child.isIdentifier && !Task.isPropertyName e.parent e.field

end Edge

/-! ## What the rules speak of -/

namespace Standing

variable {c : Standing} {n : Node} {field : Field}

theorem useUnder_eq_name_iff (c : Standing) (n : Node) (field : Field) (child : Node) :
    c.useUnder n field child = .name ↔ Task.isPropertyName n field = true := by
  constructor
  · intro huse
    unfold useUnder at huse
    split at huse <;> try grind
  · exact fun hname ↦ useUnder_of_isPropertyName hname c child

theorem identifiers_own (c : Standing) (n : Node) :
    ((c.own n).filterMap Mark.occurrence?).map (·.identifier) =
      if n.isIdentifier = true ∧ c.use ≠ .name then [n] else [] := by
  unfold own
  by_cases hidentifier : n.isIdentifier = true
  · cases c.use <;> simp [hidentifier, Mark.occurrence?, occurrence]
  · cases c.opens? n <;> simp [hidentifier, Mark.occurrence?]

/-- The rules speak once of every identifier below a node, unless it is only a name. -/
theorem identifiers_marks (c : Standing) (n : Node) :
    ((c.marks n).filterMap Mark.occurrence?).map (·.identifier) =
      (if n.isIdentifier = true ∧ c.use ≠ .name then [n] else []) ++
        (n.edges.filter Edge.isName).map Edge.child := by
  induction n using Node.induction generalizing c with
  | step n ih =>
    rw [marks_eq, List.filterMap_append, List.map_append, identifiers_own, Node.edges_eq,
      List.filterMap_flatMap, List.map_flatMap, List.filter_flatMap, List.map_flatMap]
    congr 1
    apply List.flatMap_congr
    rintro ⟨field, child⟩ hchild
    have huse : (c.below n field child).use ≠ .name ↔ Task.isPropertyName n field = false := by
      rw [Bool.eq_false_iff, ne_eq, not_iff_not]
      exact useUnder_eq_name_iff c n field child
    rw [ih field child (Node.mem_children_iff.mp hchild)]
    simp only [huse]
    by_cases hidentifier : child.isIdentifier = true <;>
      by_cases hname : Task.isPropertyName n field = true <;>
        simp [Edge.isName, hidentifier, hname]

end Standing

namespace Node

variable {tree n : Node}

theorem WellFormed.identifiers_occurrences (h : tree.WellFormed) :
    (Lexical.occurrences tree).map (·.identifier) =
      (tree.edges.filter Edge.isName).map Edge.child := by
  have hroot : tree.isIdentifier = false := by simp [isIdentifier, hasKind, h.program]
  have hopened : Mark.occurrence? (.opened ⟨.program, tree, []⟩) = none := rfl
  rw [Lexical.occurrences, Lexical.marks, List.filterMap_cons_none hopened,
    Standing.identifiers_marks, hroot]
  rfl

/-- How often an identity stands where only the name of a property, a label or a member of a module
can stand. A path that the grammar lends to the name does not count. -/
def nameTimes (tree : Node) (x : NodeId) : Nat :=
  ((tree.edges.filter fun e ↦ !e.isLent && Task.isPropertyName e.parent e.field).map
    (·.child.id)).count x

/-- A node that is reached by a lent path is reached by another one. -/
theorem exists_first (hshaped : ∀ n ∈ tree.nodes, n.isShaped = true) {e : Edge}
    (he : e ∈ tree.edges) :
    ∃ first ∈ tree.edges, first.isLent = false ∧ first.child.id = e.child.id := by
  cases hlent : e.isLent with
  | false => exact ⟨e, he, hlent, rfl⟩
  | true =>
    obtain ⟨hparent, hbranch⟩ := mem_edges_iff.mp he
    have hfirst {m child : Node} {field : Field} (hm : m ∈ tree.nodes)
        (hchild : m.child? field = some child) (hid : child.id = e.child.id)
        (hfield : (Edge.mk m field child).isLent = false) :
        ∃ first ∈ tree.edges, first.isLent = false ∧ first.child.id = e.child.id :=
      ⟨⟨m, field, child⟩, mem_edges_iff.mpr ⟨hm, mem_branches_of_child? hchild⟩, hfield, hid⟩
    unfold Edge.isLent at hlent
    split at hlent
    · obtain ⟨child, hchild, hid⟩ := (Option.any_eq_true _ _).mp hlent
      exact hfirst hparent hchild (by simpa using hid) (by simp [Edge.isLent])
    · obtain ⟨child, hchild, hid⟩ := (Option.any_eq_true _ _).mp hlent
      exact hfirst hparent hchild (by simpa using hid) (by simp [Edge.isLent])
    · rename_i hkind hfield
      rw [Bool.and_eq_true, sharesKey_iff] at hlent
      obtain ⟨-, key, value, hkey, hvalue, hshared⟩ := hlent
      have hsingle := length_items_of_isShaped (hshaped _ hparent) hkind rfl
        (by decide : Field.key ∈ _) (by decide)
      obtain rfl : key = e.child :=
        Option.some.inj (hkey.symm.trans (child?_eq_some_of_mem hsingle (hfield ▸ hbranch)))
      rcases hshared with hsame | ⟨-, target, htarget, hsame⟩
      · exact hfirst hparent hvalue hsame.symm (by simp [Edge.isLent])
      · have hvalueMem := mem_nodes_of_mem_branches hparent (mem_branches_of_child? hvalue)
        exact hfirst hvalueMem htarget hsame (by simp [Edge.isLent])
    · exact absurd hlent (by simp)

/-- An identifier below the root stands once: as the name of something, or as what the rules speak
of. -/
theorem count_occurrences_add_nameTimes (h : tree.WellFormed) (hunshared : tree.Unshared)
    {e : Edge} (he : e ∈ tree.edges) (hidentifier : e.child.isIdentifier = true) :
    ((Lexical.occurrences tree).map (·.identifier.id)).count e.child.id +
      tree.nameTimes e.child.id = 1 := by
  obtain ⟨first, hfirst, hlent, hid⟩ := exists_first h.shaped he
  obtain ⟨hparent, hbranch⟩ := mem_edges_iff.mp hfirst
  have hchild : first.child = e.child := by
    obtain ⟨hparent', hbranch'⟩ := mem_edges_iff.mp he
    exact hunshared.identity _ (mem_nodes_of_mem_branches hparent hbranch) _
      (mem_nodes_of_mem_branches hparent' hbranch') hid
  have hmem : first ∈ tree.edges.filter fun e ↦ !e.isLent :=
    List.mem_filter.mpr ⟨hfirst, by simp [hlent]⟩
  have hnames : tree.edges.filter Edge.isName =
      (tree.edges.filter fun e ↦ !e.isLent).filter Edge.isName := by
    rw [List.filter_filter]
    apply List.filter_congr
    intro other hother
    cases hlent : other.isLent with
    | false => simp
    | true =>
      have hvariable := Unshared.not_isVariable_of_isLent h.namesKeys hother hlent
      grind [Edge.isVariable, Edge.isName]
  have hspoken : (Lexical.occurrences tree).map (·.identifier.id) =
      ((tree.edges.filter fun e ↦ !e.isLent).filter Edge.isName).map (·.child.id) := by
    have hidentifiers := congrArg (List.map Node.id) h.identifiers_occurrences
    rw [List.map_map, List.map_map] at hidentifiers
    rw [← hnames]
    exact hidentifiers
  have hnamed : (tree.edges.filter fun e ↦ !e.isLent && Task.isPropertyName e.parent e.field) =
      (tree.edges.filter fun e ↦ !e.isLent).filter
        fun e ↦ Task.isPropertyName e.parent e.field := by
    rw [List.filter_filter]
    exact List.filter_congr fun other _ ↦ Bool.and_comm _ _
  rw [nameTimes, hspoken, hnamed, ← hid, count_map_filter hunshared.distinct hmem,
    count_map_filter hunshared.distinct hmem, Edge.isName, hchild, hidentifier]
  cases Task.isPropertyName first.parent first.field <;> rfl

end Node
namespace Store

variable {s : Store} {tree : Node} {facts : List Fact}

/-- How often an identity is where a binding is declared. -/
def declaredTimes (s : Store) (x : NodeId) : Nat :=
  (s.declarationSites.map Site.id).count x

/-- How often an identity is a reference of the index. -/
def referredTimes (s : Store) (x : NodeId) : Nat :=
  (s.indexed.map (·.site.id)).count x

/-- How often bindings list an identity as a reference. -/
def listedTimes (s : Store) (x : NodeId) : Nat :=
  (s.referenceSites.map Site.id).count x

/-- A reference that was resolved is listed once, by its binding, and any other one is listed by
none and free. -/
def Lists (s : Store) (ref : Reference) : Prop :=
  match ref.binding with
  | some id => s.listedTimes ref.site.id = 1 ∧ s.free.count ref.site.id = 0 ∧
      ∃ b, s.bindings[id]? = some b ∧ ref.site ∈ b.references
  | none => s.listedTimes ref.site.id = 0 ∧ s.free.count ref.site.id = 1

namespace Surveyed

theorem map_refer (s : Store) (sites : List Site) :
    (s.refer sites).map (·.site.id) = sites.map Site.id := by
  rw [refer, List.map_map]
  rfl

/-- The sites of a store are what the rules speak of. -/
theorem declaredTimes_add_referredTimes (h : Surveyed tree facts) (x : NodeId) :
    (ofFacts facts).declaredTimes x + (ofFacts facts).referredTimes x =
      ((Lexical.occurrences tree).map (·.identifier.id)).count x := by
  have hmarks : ((facts.flatMap (Fact.marks (ofFacts facts).numbering)).filterMap
      Mark.occurrence?).map (·.identifier.id) = (facts.flatMap Fact.sites).map Site.id := by
    rw [List.filterMap_flatMap, List.map_flatMap, List.map_flatMap]
    apply List.flatMap_congr
    intro fact _
    cases fact <;> rfl
  have hspoken := (h.perm_marks.filterMap Mark.occurrence?).map (·.identifier.id)
  rw [hmarks] at hspoken
  calc
    (ofFacts facts).declaredTimes x + (ofFacts facts).referredTimes x =
        ((Fact.declaredSites facts).map Site.id).count x +
          ((Fact.referredSites facts).map Site.id).count x := by
      rw [declaredTimes, referredTimes, (h.perm_declarationSites.map Site.id).count_eq,
        (h.perm_indexed.map (·.site.id)).count_eq, map_refer]
    _ = ((facts.flatMap Fact.sites).map Site.id).count x := by
      rw [((Fact.sites_perm facts).map Site.id).count_eq, List.map_append, List.count_append]
    _ = ((Lexical.occurrences tree).map (·.identifier.id)).count x := hspoken.count_eq x

theorem lists (h : Surveyed tree facts) {ref : Reference} (href : ref ∈ (ofFacts facts).indexed) :
    (ofFacts facts).Lists ref := by
  have hmem := h.perm_indexed.mem_iff.mp href
  obtain ⟨site, hsite, rfl⟩ := List.mem_map.mp hmem
  have hnodup : ((Fact.referredSites facts).map Site.id).Nodup := by
    have hsites := ((Fact.sites_perm facts).map Site.id).nodup_iff.mp h.nodup_sites
    rw [List.map_append] at hsites
    exact (List.nodup_append.mp hsites).2.1
  have hlisted : (ofFacts facts).listedTimes site.id =
      if ((ofFacts facts).lookup? site.scope site.name).isSome then 1 else 0 := by
    rw [listedTimes, (h.perm_referenceSites.map Site.id).count_eq, List.map_map]
    rw [← map_refer (ofFacts facts)] at hnodup
    exact count_map_filter hnodup hmem _
  have hfree : (ofFacts facts).free.count site.id =
      if (ofFacts facts).lookup? site.scope site.name = none then 1 else 0 := by
    rw [free_ofFacts, List.count_reverse, count_map_filter hnodup hsite]
    simp
  unfold Lists
  cases hfound : (ofFacts facts).lookup? site.scope site.name with
  | none => exact ⟨by simpa [hfound] using hlisted, by simpa [hfound] using hfree⟩
  | some id =>
    have hconsistent := consistent_ofFacts h.fit
    obtain ⟨b, hb, -, -⟩ := hconsistent.lookup?_some hfound
    refine ⟨by simpa [hfound] using hlisted, by simpa [hfound] using hfree, b, hb, ?_⟩
    rwa [hconsistent.mem_references_iff hb, ← hfound]

end Surveyed

theorem places_declare (s : Store) (target : ScopeId) (kind : BindingKind) (site : Site) :
    (s.declare target kind site).places = s.places := by
  rw [declare]
  cases s.own? target site.name <;> rfl

theorem places_openScope (s : Store) (type : ScopeType) (node : Node) (parent : Option ScopeId) :
    (s.openScope type node parent).places = s.places := rfl

theorem isSome_places_foldl_learn (facts : List Fact) (s : Store) (x : NodeId) :
    ((facts.foldl learn s).places.get? x).isSome = true ↔
      (s.places.get? x).isSome = true ∨ Fact.Places x facts := by
  induction facts generalizing s with
  | nil => simp
  | cons fact rest ih =>
    rw [List.foldl_cons, ih]
    cases fact with
    | opened type node parent => rw [learn, places_openScope, Fact.places_opened]
    | placed node scope =>
      rw [learn, Table.get?_set, Fact.places_placed]
      by_cases hnode : node = x <;> simp [hnode]
    | declared target kind site => rw [learn, places_declare, Fact.places_declared]
    | referred site => rw [learn, Fact.places_referred]

theorem places_foldl_resolve (sites : List Site) (s : Store) :
    (sites.foldl resolve s).places = s.places := by
  induction sites generalizing s with
  | nil => rfl
  | cons site rest ih =>
    rw [List.foldl_cons, ih]
    cases hfound : s.lookup? site.scope site.name with
    | none => rw [resolve_of_none hfound]
    | some id => rw [resolve_of_some hfound]

theorem enclosing_iff {s : Store} {n : Node} :
    (∃ scope, s.enclosing n = .ok scope) ↔ (s.places.get? n.id).isSome = true := by
  unfold enclosing
  cases s.places.get? n.id <;> simp

namespace Surveyed

/-- A node has a scope if it is reached without a step that is passed over. -/
theorem enclosing_iff_shows (h : Surveyed tree facts) {n : Node} (hn : n ∈ tree.nodes) :
    (∃ scope, (ofFacts facts).enclosing n = .ok scope) ↔ tree.Shows false n := by
  have hempty : ¬ ((({} : Store).places.get? n.id).isSome = true) := by simp
  rw [enclosing_iff, ofFacts_eq, places_foldl_resolve, isSome_places_foldl_learn,
    Program.places_facts h.wellFormed h.facts, or_iff_right hempty]
  constructor
  · rintro ⟨m, hshows, hid⟩
    rwa [← h.unshared.identity m hshows.mem_nodes n hn hid]
  · exact fun hshows ↦ ⟨n, hshows, rfl⟩

end Surveyed

end Store

/-- The analysis of a well-formed program without shared nodes loses no identifier and counts none
twice. Every identifier that a walk visits stands once where a binding is declared, once in the
index of references, or once as a mere name. A reference is listed once by the binding it refers to,
or once as free. The analysis knows the scope of every node but of those that it passes over. -/
theorem identifiers_counted_once {tree : Node} (hformed : tree.WellFormed)
    (hunshared : tree.Unshared) :
    ∃ s visits, Store.analyze tree = .ok s ∧ tree.walk [] = ⟨visits, none⟩ ∧
      (∀ visit ∈ visits, visit.node.isIdentifier = true →
        s.declaredTimes visit.node.id + s.referredTimes visit.node.id +
          tree.nameTimes visit.node.id = 1) ∧
      (∀ ref ∈ s.indexed, s.Lists ref) ∧
      ∀ n ∈ tree.nodes, (∃ scope, s.enclosing n = .ok scope) ↔ tree.Shows false n := by
  obtain ⟨facts, hfacts⟩ := Program.exists_facts hformed
  have hsurveyed : Store.Surveyed tree facts := ⟨hformed, hunshared, hfacts⟩
  refine ⟨Store.ofFacts facts, _, Store.analyze_eq_ok_iff.mpr ⟨?_, facts, hfacts, rfl⟩,
    hformed.walk_eq, ?_, fun ref ↦ hsurveyed.lists, fun n ↦ hsurveyed.enclosing_iff_shows⟩
  · simp [Node.hasKind, hformed.program]
  · intro visit hvisit hidentifier
    rcases List.mem_cons.mp hvisit with rfl | hvisit
    · rw [Node.isIdentifier_iff, hformed.program] at hidentifier
      exact absurd hidentifier (by decide)
    · obtain ⟨e, he, rfl⟩ := List.mem_map.mp hvisit
      rw [hsurveyed.declaredTimes_add_referredTimes]
      exact Node.count_occurrences_add_nameTimes hformed hunshared he hidentifier

theorem identifiers_counted_once_sample :
    Lexical.sample.WellFormed ∧ Lexical.sample.Unshared ∧ ∃ s visits,
      Store.analyze Lexical.sample = .ok s ∧ Lexical.sample.walk [] = ⟨visits, none⟩ ∧
      (∀ visit ∈ visits, visit.node.isIdentifier = true →
        s.declaredTimes visit.node.id + s.referredTimes visit.node.id +
          Lexical.sample.nameTimes visit.node.id = 1) ∧
      (∀ ref ∈ s.indexed, s.Lists ref) ∧
      ∀ n ∈ Lexical.sample.nodes,
        (∃ scope, s.enclosing n = .ok scope) ↔ Lexical.sample.Shows false n := by
  have hformed : Lexical.sample.WellFormed := ⟨rfl, by decide +kernel⟩
  have hunshared : Lexical.sample.Unshared := Node.unshared_of_nodup (by decide +kernel)
  exact ⟨hformed, hunshared, identifiers_counted_once hformed hunshared⟩

end Relabel
