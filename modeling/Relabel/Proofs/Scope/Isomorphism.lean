import Relabel.Proofs.Scope.Outline

/-!
# Isomorphic stores

Two stores are isomorphic if they have one outline. The analysis of a program that was edited while
a store was kept up to date is isomorphic to the analysis of the program and agrees with the store
about every name. The declarations were compared before; here every reference is shown to find in
the new analysis what it found in the old one, and the rest of the store follows from that.
-/

namespace Relabel

/-- Two stores describe the same scopes, group the same identifiers into the same bindings of the
same scopes, and know the same identifiers that refer to no binding. -/
structure Store.Isomorphic (a b : Store) : Prop where
  scopes : ∀ id : ScopeId, a.scopes[id]?.map Scope.outline = b.scopes[id]?.map Scope.outline
  bindings : ∀ id : BindingId,
    a.bindings[id]?.map Binding.outline = b.bindings[id]?.map Binding.outline
  tables : ∀ scope id,
    (∃ name, a.own? scope name = some id) ↔ ∃ name, b.own? scope name = some id
  owners : a.owners = b.owners
  free : a.free = b.free

/-- Two isomorphic stores agree about names. The order of the entries in tables is free, and so is
the order of references under a name. -/
structure Store.Agrees (a b : Store) : Prop where
  isomorphic : a.Isomorphic b
  names : ∀ id : BindingId, a.bindings[id]?.map (·.name) = b.bindings[id]?.map (·.name)
  own : ∀ scope name, a.own? scope name = b.own? scope name
  index : ∀ name,
    ((a.filed name).map Reference.outline).Perm ((b.filed name).map Reference.outline)

/-- A binding apart from its name and its references. -/
def Binding.shape (b : Binding) : BindingKind × ScopeId × List Site :=
  (b.kind, b.scope, b.declarations)

/-- A binding apart from its name. -/
def Binding.anonymous (b : Binding) : BindingKind × ScopeId × List Site × List Site :=
  (b.kind, b.scope, b.declarations, b.references)

namespace Store

variable {s s' : Store} {references : List Reference}

theorem shape_foldl_resolve (sites : List Site) (s : Store) (id : BindingId) :
    (sites.foldl Store.resolve s).bindings[id]?.map Binding.shape =
      s.bindings[id]?.map Binding.shape := by
  induction sites generalizing s with
  | nil => rfl
  | cons site rest ih =>
    rw [List.foldl_cons, ih, getElem?_bindings_resolve, Option.map_map]
    congr 1
    funext b
    by_cases hfound : s.lookup? site.scope site.name = some id <;> simp [hfound, Binding.shape]

theorem scopes_foldl_resolve (sites : List Site) (s : Store) :
    (sites.foldl Store.resolve s).scopes = s.scopes := by
  induction sites generalizing s with
  | nil => rfl
  | cons site rest ih => rw [List.foldl_cons, ih, scopes_resolve]

/-- The identifier of a reference to no binding. -/
def unbound? (ref : (NodeId × ScopeId) × Option BindingId) : Option NodeId :=
  if ref.2 = none then some ref.1.1 else none

theorem free_foldl_resolve (sites : List Site) (s : Store) :
    (sites.foldl Store.resolve s).free =
      (((s.refer sites).map Reference.outline).filterMap unbound?).reverse ++ s.free := by
  induction sites generalizing s with
  | nil => rfl
  | cons site rest ih =>
    rw [List.foldl_cons, ih, refer_congr rest (lookup?_resolve s site)]
    cases hfound : s.lookup? site.scope site.name with
    | none =>
      rw [resolve_of_none hfound]
      simp [refer, hfound, Reference.outline, unbound?, Site.outline]
    | some id =>
      rw [resolve_of_some hfound]
      simp [refer, hfound, Reference.outline, unbound?]

theorem free_foldl_learn (facts : List Fact) (s : Store) :
    (facts.foldl Store.learn s).free = s.free := by
  induction facts generalizing s with
  | nil => rfl
  | cons fact rest ih =>
    rw [List.foldl_cons, ih]
    cases fact with
    | declared target kind site =>
      simp only [learn, declare]
      cases s.own? target site.name <;> rfl
    | _ => rfl

/-- Notes the binding of a reference, if it has one. -/
def ownReference (owners : Table NodeId BindingId)
    (ref : (NodeId × ScopeId) × Option BindingId) : Table NodeId BindingId :=
  match ref.2 with
  | some id => owners.set ref.1.1 id
  | none => owners

theorem owners_foldl_resolve (sites : List Site) (s : Store) :
    (sites.foldl Store.resolve s).owners =
      ((s.refer sites).map Reference.outline).foldl ownReference s.owners := by
  induction sites generalizing s with
  | nil => rfl
  | cons site rest ih =>
    rw [List.foldl_cons, ih, refer_congr rest (lookup?_resolve s site)]
    cases hfound : s.lookup? site.scope site.name with
    | none =>
      rw [resolve_of_none hfound]
      simp [refer, hfound, Reference.outline, ownReference]
    | some id =>
      rw [resolve_of_some hfound]
      simp [refer, hfound, Reference.outline, ownReference, Site.outline]

/-- A store was made from another one by renaming bindings. -/
structure Kept (s live : Store) : Prop where
  scopes : ∀ id : ScopeId, live.scopes[id]?.map Scope.outline = s.scopes[id]?.map Scope.outline
  bindings : ∀ id : BindingId,
    live.bindings[id]?.map Binding.anonymous = s.bindings[id]?.map Binding.anonymous
  owners : live.owners = s.owners
  free : live.free = s.free

theorem Kept.refl (s : Store) : Kept s s :=
  ⟨fun _ ↦ rfl, fun _ ↦ rfl, rfl, rfl⟩

theorem Kept.rekey {live : Store} (h : Kept s live) (id : BindingId) (b : Binding)
    (name : String) : Kept s (live.rekey id b name) where
  scopes i := by
    rw [← h.scopes i, Store.rekey, Array.getElem?_modify]
    by_cases hi : b.scope = i
    · rw [if_pos hi, Option.map_map]
      rfl
    · rw [if_neg hi]
  bindings i := by
    rw [← h.bindings i, getElem?_bindings_rekey]
    by_cases hi : id = i
    · rw [if_pos hi, Option.map_map]
      rfl
    · rw [if_neg hi]
  owners := h.owners
  free := h.free

theorem Kept.outlines {live : Store} (h : Kept s live) (id : BindingId) :
    live.bindings[id]?.map Binding.outline = s.bindings[id]?.map Binding.outline := by
  have houtline : Binding.outline = (fun parts : BindingKind × ScopeId × List Site × List Site ↦
      (parts.1, parts.2.1, parts.2.2.1.map Site.outline, parts.2.2.2.map Site.outline)) ∘
        Binding.anonymous := rfl
  rw [houtline, ← Option.map_map, h.bindings id, Option.map_map]

theorem Kept.shapes {live : Store} (h : Kept s live) (id : BindingId) :
    live.bindings[id]?.map Binding.shape = s.bindings[id]?.map Binding.shape := by
  have hshape : Binding.shape = (fun parts : BindingKind × ScopeId × List Site × List Site ↦
      (parts.1, parts.2.1, parts.2.2.1)) ∘ Binding.anonymous := rfl
  rw [hshape, ← Option.map_map, h.bindings id, Option.map_map]

/-- A binding stands in the table of its own scope. -/
theorem Consistent.exists_own?_iff (h : s.Consistent references) (scope : ScopeId)
    (id : BindingId) :
    (∃ name, s.own? scope name = some id) ↔ ∃ b, s.bindings[id]? = some b ∧ b.scope = scope := by
  constructor
  · rintro ⟨name, hown⟩
    obtain ⟨b, hb, hscope, -⟩ := (h.own_iff _ _ _).mp hown
    exact ⟨b, hb, hscope⟩
  · rintro ⟨b, hb, rfl⟩
    exact ⟨b.name, h.own hb⟩

theorem tables_iff {references' : List Reference} (h : s.Consistent references)
    (h' : s'.Consistent references')
    (hbindings : ∀ id : BindingId,
      s.bindings[id]?.map Binding.outline = s'.bindings[id]?.map Binding.outline)
    (scope : ScopeId) (id : BindingId) :
    (∃ name, s.own? scope name = some id) ↔ ∃ name, s'.own? scope name = some id := by
  have hscopes := congrArg (Option.map (·.2.1)) (hbindings id)
  rw [Option.map_map, Option.map_map] at hscopes
  rw [h.exists_own?_iff, h'.exists_own?_iff]
  calc
    (∃ b, s.bindings[id]? = some b ∧ b.scope = scope) ↔
        s.bindings[id]?.map Binding.scope = some scope := Option.map_eq_some_iff.symm
    _ ↔ s'.bindings[id]?.map Binding.scope = some scope := by
      exact iff_of_eq (congrArg (· = some scope) hscopes)
    _ ↔ ∃ b, s'.bindings[id]? = some b ∧ b.scope = scope := Option.map_eq_some_iff

theorem Consistent.name_iff (h : s.Consistent references) (id : BindingId) (name : String) :
    s.bindings[id]?.map (·.name) = some name ↔ ∃ scope, s.own? scope name = some id := by
  rw [Option.map_eq_some_iff]
  constructor
  · rintro ⟨b, hb, rfl⟩
    exact ⟨b.scope, h.own hb⟩
  · rintro ⟨scope, hown⟩
    obtain ⟨b, hb, -, hname⟩ := (h.own_iff _ _ _).mp hown
    exact ⟨b, hb, hname⟩

/-- What the index has under a name can be read off the outlines and spellings of all
references. -/
theorem Consistent.outline_filed (h : s.Consistent references) {e : Edits}
    (hspelling : ∀ ref ∈ references, ref.site.spelling e = s.nameOf ref) (name : String) :
    ((s.filed name).map Reference.outline).Perm
      (((references.map fun ref ↦ (ref.outline, ref.site.spelling e)).filter
        fun ref ↦ ref.2 = name).map Prod.fst) := by
  have hfilter : references.filter (fun ref ↦ s.nameOf ref = name) =
      references.filter fun ref ↦ ref.site.spelling e = name :=
    List.filter_congr fun ref href ↦ by rw [hspelling ref href]
  have hperm := (h.index name).map Reference.outline
  rw [hfilter] at hperm
  rw [List.filter_map, List.map_map]
  exact hperm

/-- The references of a binding can be read off the outlines of all references. -/
theorem Consistent.outline_references (h : s.Consistent references) {id : BindingId} {b : Binding}
    (hb : s.bindings[id]? = some b) :
    b.references.map Site.outline =
      ((references.map Reference.outline).filter fun ref ↦ ref.2 = some id).map Prod.fst := by
  rw [h.sites id b hb, List.filter_map, List.map_map, List.map_map]
  rfl

theorem outer?_eq_of_outline {id : ScopeId}
    (h : s'.scopes[id]?.map Scope.outline = s.scopes[id]?.map Scope.outline) :
    s'.outer? id = s.outer? id := by
  have houter (s : Store) : s.outer? id = (s.scopes[id]?.map Scope.outline).bind (·.2.2.1) := by
    rw [Option.bind_map]
    rfl
  rw [houter, houter, h]

end Store

/-- What a sketch says about a reference. -/
def Sketch.reference? : Sketch → Option ((NodeId × ScopeId) × String)
  | referred identifier name scope => some ((identifier, scope), name)
  | _ => none

theorem Fact.outline_referredSites (e : Edits) (facts : List Fact) :
    (referredSites facts).map (fun site ↦ (site.outline, site.spelling e)) =
      (sketches e facts).filterMap Sketch.reference? := by
  induction facts with
  | nil => rfl
  | cons fact rest ih =>
    cases fact with
    | opened => exact ih
    | placed => exact ih
    | declared => exact ih
    | referred site => exact congrArg (_ :: ·) ih

/-! ## The analysis of an edited program -/

/-- The facts of a program and those of the program after edits, with a store of the program that
was kept up to date while the edits were made. -/
structure Reanalysed (facts facts' : List Fact) (e : Edits) (live : Store) : Prop where
  fit : Fact.Fit {} facts
  fit' : Fact.Fit {} facts'
  sketches : Fact.sketches {} facts' = Fact.sketches e facts
  tracks : live.Tracks e ((Store.ofFacts facts).refer (Fact.referredSites facts))
  kept : Store.Kept (Store.ofFacts facts) live

namespace Reanalysed

open Store

variable {facts facts' : List Fact} {e : Edits} {live : Store}

theorem shapes (h : Reanalysed facts facts' e live) (id : BindingId) :
    live.bindings[id]?.map Binding.shape =
      (facts.foldl Store.learn {}).bindings[id]?.map Binding.shape :=
  (h.kept.shapes id).trans (shape_foldl_resolve (Fact.referredSites facts) _ id)

theorem grows (h : Reanalysed facts facts' e live) : (facts.foldl Store.learn {}).Grows live := by
  intro id old hold
  have hshape := h.shapes id
  rw [hold, Option.map_some] at hshape
  obtain ⟨new, hnew, hsame⟩ := Option.map_eq_some_iff.mp hshape
  have hdeclarations : new.declarations = old.declarations := congrArg (·.2.2) hsame
  refine ⟨new, hnew, congrArg (·.2.1) hsame, fun site hsite ↦ ?_⟩
  rw [hdeclarations]
  exact hsite

theorem follows (h : Reanalysed facts facts' e live) :
    Follows live (facts.foldl Store.learn {}) (facts'.foldl Store.learn {}) :=
  (follows_empty live).foldl_learn consistent_empty consistent_empty h.tracks h.fit h.fit'
    h.sketches h.grows

theorem scopes (h : Reanalysed facts facts' e live) (id : ScopeId) :
    (ofFacts facts').scopes[id]?.map Scope.outline =
      (ofFacts facts).scopes[id]?.map Scope.outline := by
  rw [ofFacts_eq, scopes_foldl_resolve, ofFacts_eq, scopes_foldl_resolve]
  exact h.follows.scopes id

/-- The new analysis has each name in the scope in which the store has it, for the same binding. -/
theorem own?_eq (h : Reanalysed facts facts' e live) (scope : ScopeId) (name : String) :
    (ofFacts facts').own? scope name = live.own? scope name := by
  have hscopes : (ofFacts facts').own? scope name =
      (facts'.foldl Store.learn {}).own? scope name := by
    rw [own?, ofFacts_eq, scopes_foldl_resolve, own?]
  rw [hscopes]
  -- Both sides are known by the scopes and names of bindings, so tables need not be compared.
  ext id
  rw [(consistent_empty.foldl_learn h.fit').own_iff, h.tracks.consistent.own_iff]
  constructor
  · rintro ⟨new, hnew, hscope, hname⟩
    obtain ⟨old, hold, houtline⟩ := h.follows.exists_old hnew
    obtain ⟨named, hnamed, hsame⟩ := h.follows.names id new hnew
    obtain ⟨grown, hgrown, hgrownScope, -⟩ := h.grows id old hold
    obtain rfl : named = grown := Option.some.inj (hnamed.symm.trans hgrown)
    refine ⟨named, hnamed, ?_, hsame.trans hname⟩
    rw [hgrownScope, ← Follows.scope_eq houtline, hscope]
  · rintro ⟨named, hnamed, hscope, hname⟩
    have hshape := h.shapes id
    rw [hnamed, Option.map_some] at hshape
    obtain ⟨old, hold, hsame⟩ := Option.map_eq_some_iff.mp hshape.symm
    obtain ⟨new, hnew, houtline⟩ := h.follows.exists_binding hold
    obtain ⟨other, hother, hotherName⟩ := h.follows.names id new hnew
    obtain rfl : named = other := Option.some.inj (hnamed.symm.trans hother)
    have hold : old.scope = named.scope := congrArg (·.2.1) hsame
    exact ⟨new, hnew, (Follows.scope_eq houtline).trans (hold.trans hscope),
      hotherName.symm.trans hname⟩

theorem lookup?_eq (h : Reanalysed facts facts' e live) (scope : ScopeId) (name : String) :
    (ofFacts facts').lookup? scope name = live.lookup? scope name := by
  apply lookup?_congr
  · apply chain_congr
    intro id _
    exact outer?_eq_of_outline ((h.scopes id).trans (h.kept.scopes id).symm)
  · exact fun inner _ ↦ h.own?_eq inner name

/-- Every reference finds in the new analysis what it found in the first one. -/
theorem references_eq (h : Reanalysed facts facts' e live) :
    ((ofFacts facts').refer (Fact.referredSites facts')).map
        (fun ref ↦ (ref.outline, ref.site.spelling {})) =
      ((ofFacts facts).refer (Fact.referredSites facts)).map
        fun ref ↦ (ref.outline, ref.site.spelling e) := by
  have hfound {site : Site} (hsite : site ∈ Fact.referredSites facts) :
      live.lookup? site.scope (site.spelling e) =
        (ofFacts facts).lookup? site.scope site.name := by
    have href : Reference.mk site ((ofFacts facts).lookup? site.scope site.name) ∈
        (ofFacts facts).refer (Fact.referredSites facts) := List.mem_map.mpr ⟨site, hsite, rfl⟩
    rw [h.tracks.spelling_eq_nameOf href]
    exact h.tracks.consistent.lookup _ href
  let found (reference : (NodeId × ScopeId) × String) :=
    ((reference.1, live.lookup? reference.1.2 reference.2), reference.2)
  calc
    ((ofFacts facts').refer (Fact.referredSites facts')).map
        (fun ref ↦ (ref.outline, ref.site.spelling {})) =
      (Fact.referredSites facts').map fun site ↦
        ((site.outline, (ofFacts facts').lookup? site.scope site.name), site.spelling {}) := by
      rw [refer, List.map_map]
      rfl
    _ = ((Fact.referredSites facts').map fun site ↦ (site.outline, site.spelling {})).map
        found := by
      rw [List.map_map]
      congr 1
      funext site
      rw [h.lookup?_eq]
      rfl
    _ = ((Fact.referredSites facts).map fun site ↦ (site.outline, site.spelling e)).map
        found := by
      rw [Fact.outline_referredSites, h.sketches, ← Fact.outline_referredSites]
    _ = (Fact.referredSites facts).map fun site ↦
        ((site.outline, live.lookup? site.scope (site.spelling e)), site.spelling e) := by
      rw [List.map_map]
      rfl
    _ = ((ofFacts facts).refer (Fact.referredSites facts)).map
        fun ref ↦ (ref.outline, ref.site.spelling e) := by
      rw [refer, List.map_map]
      apply List.map_congr_left
      intro site hsite
      rw [hfound hsite]
      rfl

theorem outlines_eq (h : Reanalysed facts facts' e live) :
    ((ofFacts facts').refer (Fact.referredSites facts')).map Reference.outline =
      ((ofFacts facts).refer (Fact.referredSites facts)).map Reference.outline := by
  have hfirst := congrArg (List.map Prod.fst) h.references_eq
  rw [List.map_map, List.map_map] at hfirst
  exact hfirst

theorem bindings (h : Reanalysed facts facts' e live) (id : BindingId) :
    (ofFacts facts').bindings[id]?.map Binding.outline =
      (ofFacts facts).bindings[id]?.map Binding.outline := by
  have hdeclared := h.follows.bindings id
  have hnew := shape_foldl_resolve (Fact.referredSites facts') (facts'.foldl Store.learn {}) id
  have hold := shape_foldl_resolve (Fact.referredSites facts) (facts.foldl Store.learn {}) id
  rw [← ofFacts_eq] at hnew hold
  have hshapes : ((ofFacts facts').bindings[id]?.map Binding.shape).map
      (fun shape ↦ (shape.1, shape.2.1, shape.2.2.map Site.outline)) =
      ((ofFacts facts).bindings[id]?.map Binding.shape).map
        fun shape ↦ (shape.1, shape.2.1, shape.2.2.map Site.outline) := by
    have hparts := congrArg (Option.map fun outline :
      BindingKind × ScopeId × List (NodeId × ScopeId) × List (NodeId × ScopeId) ↦
        (outline.1, outline.2.1, outline.2.2.1)) hdeclared
    rw [hnew, hold]
    rw [Option.map_map, Option.map_map] at hparts ⊢
    exact hparts
  rw [Option.map_map, Option.map_map] at hshapes
  cases hfirst : (ofFacts facts).bindings[id]? with
  | none =>
    rw [hfirst, Option.map_none, Option.map_eq_none_iff] at hshapes
    rw [hshapes]
  | some first =>
    rw [hfirst, Option.map_some] at hshapes
    obtain ⟨second, hsecond, hsame⟩ := Option.map_eq_some_iff.mp hshapes
    have hreferences : second.references.map Site.outline = first.references.map Site.outline := by
      rw [(consistent_ofFacts h.fit').outline_references hsecond,
        (consistent_ofFacts h.fit).outline_references hfirst, h.outlines_eq]
    simp only [Function.comp_apply, Binding.shape, Prod.mk.injEq] at hsame
    simp only [hsecond, Option.map_some, Binding.outline, hsame, hreferences]

theorem isomorphic (h : Reanalysed facts facts' e live) :
    (ofFacts facts').Isomorphic (ofFacts facts) where
  scopes := h.scopes
  bindings := h.bindings
  tables := tables_iff (consistent_ofFacts h.fit') (consistent_ofFacts h.fit) h.bindings
  owners := by
    have houtlines := h.outlines_eq
    rw [ofFacts_eq, ofFacts_eq, refer_congr _ (lookup?_foldl_resolve _ _),
      refer_congr _ (lookup?_foldl_resolve _ _)] at houtlines
    rw [ofFacts_eq, ofFacts_eq, owners_foldl_resolve, owners_foldl_resolve, houtlines,
      h.follows.owners]
  free := by
    have houtlines := h.outlines_eq
    rw [ofFacts_eq, ofFacts_eq, refer_congr _ (lookup?_foldl_resolve _ _),
      refer_congr _ (lookup?_foldl_resolve _ _)] at houtlines
    rw [ofFacts_eq, ofFacts_eq, free_foldl_resolve, free_foldl_resolve, houtlines,
      free_foldl_learn, free_foldl_learn]

theorem agrees (h : Reanalysed facts facts' e live) : (ofFacts facts').Agrees live where
  isomorphic := {
    scopes := fun id ↦ (h.scopes id).trans (h.kept.scopes id).symm
    bindings := fun id ↦ (h.bindings id).trans (h.kept.outlines id).symm
    tables := tables_iff (consistent_ofFacts h.fit') h.tracks.consistent fun id ↦
      (h.bindings id).trans (h.kept.outlines id).symm
    owners := h.isomorphic.owners.trans h.kept.owners.symm
    free := h.isomorphic.free.trans h.kept.free.symm }
  names id := by
    ext name
    rw [(consistent_ofFacts h.fit').name_iff, h.tracks.consistent.name_iff]
    simp only [h.own?_eq]
  own := h.own?_eq
  index name := by
    have hfresh := consistent_ofFacts h.fit'
    have hspelling : ∀ ref ∈ (ofFacts facts').refer (Fact.referredSites facts'),
        ref.site.spelling {} = (ofFacts facts').nameOf ref := by
      intro ref href
      obtain ⟨site, -, rfl⟩ := List.mem_map.mp href
      exact (hfresh.nameOf_lookup? site).symm
    have hnew := hfresh.outline_filed hspelling name
    rw [h.references_eq] at hnew
    exact hnew.trans
      (h.tracks.consistent.outline_filed (fun _ ↦ h.tracks.spelling_eq_nameOf) name).symm

end Reanalysed

end Relabel
