import Relabel.Proofs.Scope.Sketch

/-!
# Outlines of stores

The outline of a store is what it says apart from names and from the contents of nodes: which scopes
there are, which identifiers are declared and referred to as one binding, and which belong to none.
The analysis of an edited program is compared with the analysis of the program fact by fact. If the
edits spell every site as a store names its binding, and the bindings of that store are those of the
program, then both analyses have one outline, and the new one has the names of the store.
-/

namespace Relabel

/-- The identifier at a site and the scope in which it stands. -/
def Site.outline (site : Site) : NodeId × ScopeId :=
  (site.id, site.scope)

def Scope.outline (scope : Scope) : ScopeType × NodeId × Option ScopeId × List ScopeId :=
  (scope.type, scope.node.id, scope.parent, scope.children)

def Binding.outline (b : Binding) :
    BindingKind × ScopeId × List (NodeId × ScopeId) × List (NodeId × ScopeId) :=
  (b.kind, b.scope, b.declarations.map Site.outline, b.references.map Site.outline)

def Reference.outline (ref : Reference) : (NodeId × ScopeId) × Option BindingId :=
  (ref.site.outline, ref.binding)

namespace Store

variable {a b c live : Store}

/-- Every binding of a store is a binding of the other one, in the same scope and with at least the
same declarations. -/
def Grows (a b : Store) : Prop :=
  ∀ (id : BindingId) (old : Binding), a.bindings[id]? = some old →
    ∃ new, b.bindings[id]? = some new ∧ new.scope = old.scope ∧
      ∀ site ∈ old.declarations, site ∈ new.declarations

theorem Grows.refl (a : Store) : a.Grows a :=
  fun _ old hold ↦ ⟨old, hold, rfl, fun _ hsite ↦ hsite⟩

theorem Grows.trans (hab : a.Grows b) (hbc : b.Grows c) : a.Grows c := by
  intro id first hfirst
  obtain ⟨second, hsecond, hscope, hsites⟩ := hab id first hfirst
  obtain ⟨third, hthird, hscope', hsites'⟩ := hbc id second hsecond
  exact ⟨third, hthird, hscope'.trans hscope, fun site hsite ↦ hsites' site (hsites site hsite)⟩

theorem mem_declarations_declaredBinding (s : Store) (target : ScopeId) (kind : BindingKind)
    (site : Site) : site ∈ (s.declaredBinding target kind site).declarations := by
  unfold declaredBinding
  cases s.bindings[s.declaree target site.name]? with
  | none => exact List.mem_singleton_self site
  | some old => exact List.mem_append_right _ (List.mem_singleton_self site)

theorem Consistent.grows_declare (h : a.Consistent []) (target : ScopeId) (kind : BindingKind)
    (site : Site) : a.Grows (a.declare target kind site) := by
  intro id old hold
  rw [getElem?_bindings_declare h]
  by_cases hid : id = a.declaree target site.name
  · subst hid
    refine ⟨a.declaredBinding target kind site, if_pos rfl, ?_, ?_⟩
    · rw [declaredBinding, hold]
    · intro other hother
      rw [declaredBinding, hold]
      exact List.mem_append_left _ hother
  · rw [if_neg hid]
    exact ⟨old, hold, rfl, fun _ hsite ↦ hsite⟩

theorem Consistent.grows_learn (h : a.Consistent []) (fact : Fact) : a.Grows (a.learn fact) := by
  cases fact with
  | opened type node parent => exact .refl a
  | placed node scope => exact .refl a
  | declared target kind site => exact h.grows_declare target kind site
  | referred site => exact .refl a

theorem Consistent.grows_foldl_learn (h : a.Consistent []) {facts : List Fact}
    (hfit : Fact.Fit a facts) : a.Grows (facts.foldl Store.learn a) := by
  induction facts generalizing a with
  | nil => exact .refl a
  | cons fact rest ih => exact (h.grows_learn fact).trans (ih (h.learn hfit.1) hfit.2)

/-! ## Learning the same facts under other names -/

/-- A store `b` of an edited program is as far as the store `a` of the program: they have one
outline, and the bindings of `b` are named as in the store `live`. -/
structure Follows (live a b : Store) : Prop where
  scopes : ∀ id : ScopeId, b.scopes[id]?.map Scope.outline = a.scopes[id]?.map Scope.outline
  bindings : ∀ id : BindingId,
    b.bindings[id]?.map Binding.outline = a.bindings[id]?.map Binding.outline
  owners : b.owners = a.owners
  names : ∀ (id : BindingId) (new : Binding), b.bindings[id]? = some new →
    ∃ named, live.bindings[id]? = some named ∧ named.name = new.name

theorem follows_empty (live : Store) : Follows live {} {} where
  scopes _ := rfl
  bindings _ := rfl
  owners := rfl
  names := by simp

theorem size_eq_of_getElem?_map {α β : Type} {f g : α → β} {xs ys : Array α}
    (h : ∀ i : Nat, xs[i]?.map f = ys[i]?.map g) : xs.size = ys.size := by
  have hlt (i : Nat) : i < xs.size ↔ i < ys.size := by
    have hnone := congrArg (· = none) (h i)
    simpa only [Option.map_eq_none_iff, Array.getElem?_eq_none_iff, eq_iff_iff, not_lt,
      not_le] using not_congr (iff_of_eq hnone)
  apply Nat.le_antisymm
  · exact Nat.le_of_not_lt fun hless ↦ Nat.lt_irrefl _ ((hlt _).mp hless)
  · exact Nat.le_of_not_lt fun hless ↦ Nat.lt_irrefl _ ((hlt _).mpr hless)

namespace Follows

variable {references : List Reference}

/-- Where the program's analysis has a binding, that of the edited program has the same one. -/
theorem exists_binding (h : Follows live a b) {id : BindingId} {old : Binding}
    (hold : a.bindings[id]? = some old) :
    ∃ new, b.bindings[id]? = some new ∧ new.outline = old.outline := by
  have houtline := h.bindings id
  rw [hold, Option.map_some] at houtline
  exact Option.map_eq_some_iff.mp houtline

theorem exists_old (h : Follows live a b) {id : BindingId} {new : Binding}
    (hnew : b.bindings[id]? = some new) :
    ∃ old, a.bindings[id]? = some old ∧ new.outline = old.outline := by
  have houtline := h.bindings id
  rw [hnew, Option.map_some] at houtline
  obtain ⟨old, hold, heq⟩ := Option.map_eq_some_iff.mp houtline.symm
  exact ⟨old, hold, heq.symm⟩

theorem scope_eq {new old : Binding} (h : new.outline = old.outline) : new.scope = old.scope :=
  congrArg (·.2.1) h

/-- A declaration goes to the same binding under the name that the binding has in `live`. -/
theorem declaree_eq (h : Follows live a b) (ha : a.Consistent []) (hb : b.Consistent [])
    (hlive : live.Consistent references) (hgrows : a.Grows live) {target : ScopeId}
    {name name' : String} {named : Binding}
    (hnamed : live.bindings[a.declaree target name]? = some named) (hscope : named.scope = target)
    (hname : named.name = name') : b.declaree target name' = a.declaree target name := by
  unfold declaree at hnamed ⊢
  cases hown : a.own? target name with
  | some id =>
    rw [hown] at hnamed
    obtain ⟨old, hold, holdScope, -⟩ := (ha.own_iff _ _ _).mp hown
    obtain ⟨new, hnew, houtline⟩ := h.exists_binding hold
    obtain ⟨other, hother, hotherName⟩ := h.names id new hnew
    obtain rfl : named = other := Option.some.inj (hnamed.symm.trans hother)
    have hfound : b.own? target name' = some id :=
      (hb.own_iff _ _ _).mpr
        ⟨new, hnew, (scope_eq houtline).trans holdScope, hotherName.symm.trans hname⟩
    rw [hfound]
    rfl
  | none =>
    rw [hown] at hnamed
    -- A binding that had the name already would be the named one, which is yet to come.
    have hvacant : b.own? target name' = none := by
      by_contra hsome
      obtain ⟨id, hid⟩ := Option.ne_none_iff_exists'.mp hsome
      obtain ⟨new, hnew, hnewScope, hnewName⟩ := (hb.own_iff _ _ _).mp hid
      obtain ⟨old, hold, houtline⟩ := h.exists_old hnew
      obtain ⟨other, hother, hotherName⟩ := h.names id new hnew
      obtain ⟨grown, hgrown, hgrownScope, -⟩ := hgrows id old hold
      obtain rfl : other = grown := Option.some.inj (hother.symm.trans hgrown)
      have hsame : id = a.bindings.size := by
        apply hlive.binding_inj hother hnamed
        · rw [hscope, hgrownScope, ← scope_eq houtline, hnewScope]
        · rw [hname, hotherName, hnewName]
      have hlt := (Array.getElem?_eq_some_iff.mp hold).1
      exact absurd hlt (by rw [hsame]; exact Nat.lt_irrefl _)
    rw [hvacant, Option.getD_none, Option.getD_none]
    exact size_eq_of_getElem?_map h.bindings

/-- Two declarations of one identifier leave the binding they go to with one outline. -/
theorem outline_declaredBinding (h : Follows live a b) {target : ScopeId} {kind : BindingKind}
    {site site' : Site} (hsite : site'.outline = site.outline)
    (hsame : b.declaree target site'.name = a.declaree target site.name) :
    (b.declaredBinding target kind site').outline =
      (a.declaredBinding target kind site).outline := by
  rw [declaredBinding, declaredBinding, hsame]
  cases hold : a.bindings[a.declaree target site.name]? with
  | none =>
    have hnone := h.bindings (a.declaree target site.name)
    rw [hold, Option.map_none, Option.map_eq_none_iff] at hnone
    simp only [hnone, Binding.outline, List.map_cons, hsite]
  | some old =>
    obtain ⟨new, hnew, houtline⟩ := h.exists_binding hold
    simp only [Binding.outline, Prod.mk.injEq] at houtline
    simp only [hnew, Binding.outline, List.map_append, houtline, List.map_cons, hsite]

/-- A declaration changes the table of a scope and nothing else of it. -/
theorem scopes_declare (s : Store) (target : ScopeId) (kind : BindingKind) (site : Site)
    (id : ScopeId) :
    (s.declare target kind site).scopes[id]?.map Scope.outline =
      s.scopes[id]?.map Scope.outline := by
  rw [getElem?_scopes_declare, Option.map_map]
  rfl

theorem declare (h : Follows live a b) (ha : a.Consistent []) (hb : b.Consistent [])
    (hlive : live.Consistent references) {target : ScopeId} {kind : BindingKind}
    {site site' : Site} (hgrows : (a.declare target kind site).Grows live)
    (hsite : site'.outline = site.outline)
    (hspelled : ∀ (id : BindingId) (named : Binding), live.bindings[id]? = some named →
      site ∈ named.declarations → named.name = site'.name) :
    Follows live (a.declare target kind site) (b.declare target kind site') := by
  have hdeclared : (a.declare target kind site).bindings[a.declaree target site.name]? =
      some (a.declaredBinding target kind site) := by
    rw [getElem?_bindings_declare ha, if_pos rfl]
  obtain ⟨named, hnamed, hscope, hmem⟩ := hgrows _ _ hdeclared
  rw [(ha.declaredBinding_eq target kind site).1] at hscope
  have hname : named.name = site'.name :=
    hspelled _ named hnamed (hmem site (mem_declarations_declaredBinding a target kind site))
  have hsame : b.declaree target site'.name = a.declaree target site.name :=
    h.declaree_eq ha hb hlive ((ha.grows_declare target kind site).trans hgrows) hnamed hscope
      hname
  constructor
  · intro id
    rw [scopes_declare, scopes_declare, h.scopes id]
  · intro id
    rw [getElem?_bindings_declare hb, getElem?_bindings_declare ha, hsame]
    by_cases hid : id = a.declaree target site.name
    · rw [if_pos hid, if_pos hid, Option.map_some, Option.map_some,
        h.outline_declaredBinding hsite hsame]
    · rw [if_neg hid, if_neg hid, h.bindings id]
  · have hid : site'.id = site.id := congrArg Prod.fst hsite
    rw [owners_declare, owners_declare, h.owners, hsame, hid]
  · intro id new hnew
    rw [getElem?_bindings_declare hb, hsame] at hnew
    by_cases hid : id = a.declaree target site.name
    · rw [if_pos hid] at hnew
      obtain rfl := Option.some.inj hnew
      rw [hid, (hb.declaredBinding_eq target kind site').2]
      exact ⟨named, hnamed, hname⟩
    · rw [if_neg hid] at hnew
      exact h.names id new hnew

theorem openScope (h : Follows live a b) (type : ScopeType) {node node' : Node}
    (hnode : node'.id = node.id) (parent : Option ScopeId) :
    Follows live (a.openScope type node parent) (b.openScope type node' parent) := by
  refine ⟨fun id ↦ ?_, h.bindings, h.owners, h.names⟩
  have hsize := size_eq_of_getElem?_map h.scopes
  have hscope := h.scopes id
  rw [getElem?_openScope, getElem?_openScope, hsize]
  by_cases hid : id = a.scopes.size
  · simp only [hid, if_true, Option.map_some, Scope.outline, hnode]
  · rw [if_neg hid, if_neg hid, Option.map_map, Option.map_map]
    cases hold : a.scopes[id]? with
    | none =>
      rw [hold, Option.map_none, Option.map_eq_none_iff] at hscope
      rw [hscope]
    | some old =>
      rw [hold, Option.map_some] at hscope
      obtain ⟨new, hnew, houtline⟩ := Option.map_eq_some_iff.mp hscope
      simp only [Scope.outline, Prod.mk.injEq] at houtline
      by_cases hparent : parent = some id <;>
        simp [hnew, hparent, Scope.outline, houtline]

/-- Where nodes sit does not matter. -/
theorem foldl_placed (h : Follows live a b) {facts : List Fact}
    (hplaced : ∀ fact ∈ facts, fact.sketch? {} = none) :
    Follows live a (facts.foldl Store.learn b) := by
  induction facts generalizing b with
  | nil => exact h
  | cons fact rest ih =>
    have hrest := fun other hother ↦ hplaced other (List.mem_cons_of_mem fact hother)
    cases fact with
    | placed node scope => exact ih ⟨h.scopes, h.bindings, h.owners, h.names⟩ hrest
    | _ => exact absurd (hplaced _ List.mem_cons_self) (by simp [Fact.sketch?])

/-- One fact of the program against the fact of the edited program with its sketch. -/
theorem learn (h : Follows live a b) (ha : a.Consistent []) (hb : b.Consistent []) {e : Edits}
    (hlive : live.Tracks e references) {fact fact' : Fact} (hgrows : (a.learn fact).Grows live)
    {sketch : Sketch} (hsketch : fact.sketch? e = some sketch)
    (hsketch' : fact'.sketch? {} = some sketch) :
    Follows live (a.learn fact) (b.learn fact') := by
  rw [← hsketch] at hsketch'
  cases fact with
  | placed node scope => exact absurd hsketch (by simp [Fact.sketch?])
  | opened type node parent =>
    cases fact' with
    | opened type' node' parent' =>
      simp only [Fact.sketch?, Option.some.injEq, Sketch.opened.injEq] at hsketch'
      obtain ⟨rfl, hnode, rfl⟩ := hsketch'
      exact h.openScope type' hnode parent'
    | _ => exact absurd hsketch' (by simp [Fact.sketch?])
  | declared target kind site =>
    cases fact' with
    | declared target' kind' site' =>
      simp only [Fact.sketch?, Option.some.injEq, Sketch.declared.injEq] at hsketch'
      obtain ⟨rfl, rfl, hid, hspelling, hscope, -⟩ := hsketch'
      apply h.declare ha hb hlive.consistent hgrows (Prod.ext hid hscope)
      intro id named hnamed hmem
      rw [← site'.spelling_empty, hspelling]
      exact (hlive.spelled id named hnamed site (List.mem_append_left _ hmem)).symm
    | _ => exact absurd hsketch' (by simp [Fact.sketch?])
  | referred site =>
    cases fact' with
    | referred site' => exact h
    | _ => exact absurd hsketch' (by simp [Fact.sketch?])

theorem foldl_learn (h : Follows live a b) (ha : a.Consistent []) (hb : b.Consistent [])
    {e : Edits} (hlive : live.Tracks e references) {facts facts' : List Fact}
    (hfit : Fact.Fit a facts) (hfit' : Fact.Fit b facts')
    (hsketches : Fact.sketches {} facts' = Fact.sketches e facts)
    (hgrows : (facts.foldl Store.learn a).Grows live) :
    Follows live (facts.foldl Store.learn a) (facts'.foldl Store.learn b) := by
  induction facts generalizing a b facts' with
  | nil => exact h.foldl_placed (List.filterMap_eq_nil_iff.mp hsketches)
  | cons fact rest ih =>
    have hlearned := ha.learn hfit.1
    have hnext : (a.learn fact).Grows live := (hlearned.grows_foldl_learn hfit.2).trans hgrows
    rw [List.foldl_cons]
    cases hsketch : fact.sketch? e with
    | none =>
      cases fact with
      | placed node scope =>
        have hhere : Follows live (a.learn (.placed node scope)) b :=
          ⟨h.scopes, h.bindings, h.owners, h.names⟩
        exact ih hhere hlearned hb hfit.2 hfit' hsketches hgrows
      | _ => exact absurd hsketch (by simp [Fact.sketch?])
    | some sketch =>
      have hcons : Fact.sketches {} facts' = sketch :: Fact.sketches e rest := by
        rw [hsketches, Fact.sketches, List.filterMap_cons_some hsketch]
        rfl
      -- The edited program may say where more or fewer nodes sit before it comes to the fact.
      obtain ⟨placed, fact', rest', rfl, hplaced, hsketch', hrest⟩ :=
        List.filterMap_eq_cons_iff.mp hcons
      obtain ⟨hfitPlaced, hfits, hfitRest⟩ := Fact.fit_append.mp hfit'
      have hb' := hb.foldl_learn hfitPlaced
      rw [List.foldl_append, List.foldl_cons]
      exact ih ((h.foldl_placed hplaced).learn ha hb' hlive hnext hsketch hsketch') hlearned
        (hb'.learn hfits) hfit.2 hfitRest hrest hgrows

end Follows

end Store

end Relabel
