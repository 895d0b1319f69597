import Relabel.Proofs.Scope.Distinct
import Relabel.Proofs.Scope.Renaming

/-!
# Owners and spellings

If the sites of a program are different identifiers, each of them is owned by the binding it belongs
to, so that respelling the sites of one binding leaves all other sites alone. Together with
consistency this is the state that renaming keeps: every site is spelled as its binding is named.
-/

namespace Relabel

/-- The sites of declarations. -/
def Fact.declaredSites (facts : List Fact) : List Site :=
  facts.filterMap fun fact ↦ match fact with
    | .declared _ _ site => some site
    | _ => none

namespace Store

variable {s s' : Store} {references : List Reference} {seen : List NodeId}

/-- Each site that was seen is owned by its binding and spelled as the binding is named; nothing
else has an owner. -/
structure Owns (s : Store) (references : List Reference) (seen : List NodeId) : Prop where
  sites : ∀ (id : BindingId) (b : Binding), s.bindings[id]? = some b → ∀ site ∈ b.sites,
    site.id ∈ seen ∧ s.owners.get? site.id = some id ∧ site.name = b.name
  references : ∀ ref ∈ references, ref.site.id ∈ seen ∧ s.owners.get? ref.site.id = ref.binding
  unseen : ∀ x, x ∉ seen → s.owners.get? x = none

theorem owns_empty : ({} : Store).Owns [] [] where
  sites := by simp
  references := by simp
  unseen := by simp

/-- One more site is seen, of the binding `found` or of none. -/
theorem Owns.extend (h : s.Owns references seen) {site : Site} (hfresh : site.id ∉ seen)
    (found : Option BindingId) {more : List Reference}
    (hbindings : ∀ (id : BindingId) (b : Binding), s'.bindings[id]? = some b → ∀ other ∈ b.sites,
      (∃ old, s.bindings[id]? = some old ∧ other ∈ old.sites ∧ old.name = b.name) ∨
        (other = site ∧ found = some id ∧ site.name = b.name))
    (howners : ∀ x, s'.owners.get? x = if site.id = x then found else s.owners.get? x)
    (hmore : ∀ ref ∈ more, ref ∈ references ∨ ref = ⟨site, found⟩) :
    s'.Owns more (seen ++ [site.id]) := by
  have hold {x : NodeId} (hx : x ∈ seen) : s'.owners.get? x = s.owners.get? x := by
    rw [howners, if_neg]
    rintro rfl
    exact hfresh hx
  have hnew : s'.owners.get? site.id = found := by
    rw [howners, if_pos rfl]
  constructor
  · intro id b hb other hother
    rcases hbindings id b hb other hother with ⟨old, hb, hother, hname⟩ | ⟨rfl, hfound, hname⟩
    · obtain ⟨hseen, howner, hspelled⟩ := h.sites id old hb other hother
      exact ⟨List.mem_append_left _ hseen, (hold hseen).trans howner, hspelled.trans hname⟩
    · exact ⟨by simp, hnew.trans hfound, hname⟩
  · intro ref href
    rcases hmore ref href with href | rfl
    · obtain ⟨hseen, howner⟩ := h.references ref href
      exact ⟨List.mem_append_left _ hseen, (hold hseen).trans howner⟩
    · exact ⟨by simp, hnew⟩
  · intro x hx
    rw [List.mem_append, List.mem_singleton, not_or] at hx
    rw [howners, if_neg fun heq ↦ hx.2 heq.symm]
    exact h.unseen x hx.1

theorem owners_declare (s : Store) (target : ScopeId) (kind : BindingKind) (site : Site) :
    (s.declare target kind site).owners =
      s.owners.set site.id (s.declaree target site.name) := by
  unfold declare declaree
  cases s.own? target site.name <;> rfl

theorem Owns.declare (h : s.Owns [] seen) (hs : s.Consistent []) (target : ScopeId)
    (kind : BindingKind) {site : Site} (hfresh : site.id ∉ seen) :
    (s.declare target kind site).Owns [] (seen ++ [site.id]) := by
  obtain ⟨-, hname⟩ := hs.declaredBinding_eq target kind site
  apply h.extend hfresh (some (s.declaree target site.name))
  · intro id b hb other hother
    rw [getElem?_bindings_declare hs] at hb
    split at hb
    · rename_i hid
      obtain rfl := Option.some.inj hb
      rcases mem_sites_declaredBinding hother with rfl | ⟨old, hold, hother⟩
      · exact .inr ⟨rfl, hid ▸ rfl, hname.symm⟩
      · refine .inl ⟨old, hid ▸ hold, hother, ?_⟩
        rw [declaredBinding, hold]
    · exact .inl ⟨b, hb, hother, rfl⟩
  · intro x
    rw [owners_declare, Table.get?_set]
  · simp

theorem Owns.resolve (h : s.Owns references seen) (hs : s.Consistent references) {site : Site}
    (hfresh : site.id ∉ seen) :
    (s.resolve site).Owns (references ++ [⟨site, s.lookup? site.scope site.name⟩])
      (seen ++ [site.id]) := by
  apply h.extend hfresh (s.lookup? site.scope site.name)
  · intro id b hb other hother
    rw [getElem?_bindings_resolve] at hb
    obtain ⟨old, hold, rfl⟩ := Option.map_eq_some_iff.mp hb
    by_cases hfound : s.lookup? site.scope site.name = some id
    · obtain ⟨found, hbinding, hname, -⟩ := hs.lookup?_some hfound
      obtain rfl : old = found := Option.some.inj (hold.symm.trans hbinding)
      simp only [hfound, if_true, Binding.sites, List.mem_append, List.mem_singleton] at hother ⊢
      rcases hother with hother | hother | rfl
      · exact .inl ⟨old, hold, .inl hother, rfl⟩
      · exact .inl ⟨old, hold, .inr hother, rfl⟩
      · exact .inr ⟨rfl, trivial, hname.symm⟩
    · rw [if_neg hfound] at hother ⊢
      exact .inl ⟨old, hold, hother, rfl⟩
  · intro x
    cases hfound : s.lookup? site.scope site.name with
    | none =>
      rw [resolve_of_none hfound]
      by_cases hx : site.id = x
      · rw [if_pos hx, ← hx]
        exact h.unseen site.id hfresh
      · rw [if_neg hx]
    | some id =>
      rw [resolve_of_some hfound]
      exact Table.get?_set _ _ _ _
  · intro ref href
    rwa [List.mem_append, List.mem_singleton] at href

theorem not_mem_of_nodup {x : NodeId} {rest : List NodeId} (h : (seen ++ [x] ++ rest).Nodup) :
    x ∉ seen := by
  intro hx
  have hhere := (List.nodup_append.mp h).1
  exact (List.nodup_append.mp hhere).2.2 x hx x List.mem_cons_self rfl

theorem Owns.foldl_learn (h : s.Owns [] seen) (hs : s.Consistent []) {facts : List Fact}
    (hfit : Fact.Fit s facts) (hnodup : (seen ++ (Fact.declaredSites facts).map Site.id).Nodup) :
    (facts.foldl Store.learn s).Owns [] (seen ++ (Fact.declaredSites facts).map Site.id) := by
  induction facts generalizing s seen with
  | nil => simpa [Fact.declaredSites] using h
  | cons fact rest ih =>
    have hrest := hs.learn hfit.1
    cases fact with
    | opened type node parent => exact ih ⟨h.sites, h.references, h.unseen⟩ hrest hfit.2 hnodup
    | placed node scope => exact ih ⟨h.sites, h.references, h.unseen⟩ hrest hfit.2 hnodup
    | referred site => exact ih h hrest hfit.2 hnodup
    | declared target kind site =>
      have hsplit : seen ++ (Fact.declaredSites (.declared target kind site :: rest)).map Site.id =
          seen ++ [site.id] ++ (Fact.declaredSites rest).map Site.id := by
        simp [Fact.declaredSites]
      rw [hsplit] at hnodup ⊢
      have hfresh := not_mem_of_nodup hnodup
      exact ih (h.declare hs target kind hfresh) hrest hfit.2 hnodup

theorem Owns.foldl_resolve (h : s.Owns references seen) (hs : s.Consistent references)
    {sites : List Site} (hnodup : (seen ++ sites.map Site.id).Nodup) :
    (sites.foldl Store.resolve s).Owns (references ++ s.refer sites)
      (seen ++ sites.map Site.id) := by
  induction sites generalizing s references seen with
  | nil => simpa [refer] using h
  | cons site rest ih =>
    have hsplit : seen ++ (site :: rest).map Site.id =
        seen ++ [site.id] ++ rest.map Site.id := by
      simp
    rw [hsplit] at hnodup ⊢
    have hfresh := not_mem_of_nodup hnodup
    have hrest := ih (h.resolve hs hfresh) (hs.resolve site) hnodup
    rw [refer_congr rest (lookup?_resolve s site)] at hrest
    simpa [refer] using hrest

end Store

theorem Fact.sites_perm (facts : List Fact) :
    (facts.flatMap sites).Perm (declaredSites facts ++ referredSites facts) := by
  induction facts with
  | nil => exact .refl _
  | cons fact rest ih =>
    cases fact with
    | opened => exact ih
    | placed => exact ih
    | declared target kind site => exact ih.cons site
    | referred site => exact (ih.cons site).trans List.perm_middle.symm

namespace Store

/-- In the store of a program whose sites are different identifiers, every site has its owner. -/
theorem owns_ofFacts {facts : List Fact} (hfit : Fact.Fit {} facts)
    (hnodup : ((facts.flatMap Fact.sites).map Site.id).Nodup) :
    (ofFacts facts).Owns ((ofFacts facts).refer (Fact.referredSites facts))
      ((Fact.declaredSites facts).map Site.id ++ (Fact.referredSites facts).map Site.id) := by
  have hperm := (Fact.sites_perm facts).map Site.id
  rw [hperm.nodup_iff, List.map_append] at hnodup
  have hdeclared := owns_empty.foldl_learn consistent_empty hfit (List.nodup_append.mp hnodup).1
  have hconsistent := consistent_empty.foldl_learn hfit
  rw [List.nil_append] at hdeclared
  have hresolved := hdeclared.foldl_resolve hconsistent hnodup
  rw [List.nil_append] at hresolved
  rw [ofFacts_eq, refer_congr _ (lookup?_foldl_resolve (Fact.referredSites facts) _)]
  exact hresolved

end Store

namespace Store

/-! ## Owners are bindings of the store -/

/-- Every owner is a binding of the store. -/
def Housed (s : Store) : Prop :=
  ∀ x id, s.owners.get? x = some id → ∃ b, s.bindings[id]? = some b

variable {s : Store} {references : List Reference}

theorem housed_empty : ({} : Store).Housed := by
  simp [Housed]

theorem Housed.exists_of_bindingOf? (h : s.Housed) {n : Node} {id : BindingId}
    (hn : s.bindingOf? n = some id) : ∃ b, s.bindings[id]? = some b := by
  unfold bindingOf? at hn
  split at hn
  · exact h n.id id hn
  · exact absurd hn (by simp)

theorem Housed.declare (h : s.Housed) (hs : s.Consistent []) (target : ScopeId)
    (kind : BindingKind) (site : Site) : (s.declare target kind site).Housed := by
  intro x id howner
  rw [getElem?_bindings_declare hs]
  split
  · exact ⟨_, rfl⟩
  · rename_i hother
    rw [owners_declare, Table.get?_set] at howner
    split at howner
    · exact absurd (Option.some.inj howner).symm hother
    · exact h x id howner

theorem Housed.learn (h : s.Housed) (hs : s.Consistent []) (fact : Fact) :
    (s.learn fact).Housed := by
  cases fact with
  | opened | placed | referred => exact h
  | declared target kind site => exact h.declare hs target kind site

theorem Housed.foldl_learn (h : s.Housed) (hs : s.Consistent []) {facts : List Fact}
    (hfit : Fact.Fit s facts) : (facts.foldl Store.learn s).Housed := by
  induction facts generalizing s with
  | nil => exact h
  | cons fact rest ih => exact ih (h.learn hs fact) (hs.learn hfit.1) hfit.2

theorem Housed.resolve (h : s.Housed) (hs : s.Consistent references) (site : Site) :
    (s.resolve site).Housed := by
  intro x id howner
  have hold : ∃ b, s.bindings[id]? = some b := by
    cases hfound : s.lookup? site.scope site.name with
    | none =>
      rw [resolve_of_none hfound] at howner
      exact h x id howner
    | some found =>
      rw [resolve_of_some hfound, Table.get?_set] at howner
      split at howner
      · obtain rfl := Option.some.inj howner
        obtain ⟨b, hb, -⟩ := hs.lookup?_some hfound
        exact ⟨b, hb⟩
      · exact h x id howner
  obtain ⟨b, hb⟩ := hold
  exact ⟨_, by rw [getElem?_bindings_resolve, hb, Option.map_some]⟩

theorem Housed.foldl_resolve (h : s.Housed) (hs : s.Consistent references) (sites : List Site) :
    (sites.foldl Store.resolve s).Housed := by
  induction sites generalizing s references with
  | nil => exact h
  | cons site rest ih => exact ih (h.resolve hs site) (hs.resolve site)

theorem housed_of_analyze {tree : Node} (h : analyze tree = .ok s) : s.Housed := by
  obtain ⟨-, facts, hfacts, rfl⟩ := analyze_eq_ok_iff.mp h
  have hfit := (Program.fit_facts hfacts).1
  rw [ofFacts_eq]
  exact (housed_empty.foldl_learn consistent_empty hfit).foldl_resolve
    (consistent_empty.foldl_learn hfit) _

end Store

/-- How a site is spelled after edits. -/
def Site.spelling (e : Edits) (site : Site) : String :=
  (e.spelling? site.identifier.head).getD ""

theorem Site.spelling_empty (site : Site) : site.spelling {} = site.name := rfl

/-- Respelling one site, with its shorthand property written out first. -/
def Store.respellSite (b : Binding) (name : String) (e : Edits) (site : Site) : Edits :=
  let e := match site.owner with
    | some property => if b.renamed then e else e.writeOut property b.name
    | none => e
  e.respell site.id name

namespace Store

theorem respellSites_eq (b : Binding) (name : String) (e : Edits) :
    respellSites b name e = b.sites.foldl (respellSite b name) e := rfl

theorem spellings_writeOut (e : Edits) (property : Node) (name : String) :
    (e.writeOut property name).spellings = e.spellings := by
  unfold Edits.writeOut
  split <;> rfl

theorem spellings_respellSite (b : Binding) (name : String) (e : Edits) (site : Site) :
    (respellSite b name e site).spellings = e.spellings.set site.id name := by
  unfold respellSite Edits.respell
  cases site.owner with
  | none => rfl
  | some property =>
    by_cases hrenamed : b.renamed = true
    · simp [hrenamed]
    · simp [hrenamed, spellings_writeOut]

theorem spellings_respellSites (b : Binding) (name : String) (e : Edits) (x : NodeId) :
    (respellSites b name e).spellings.get? x =
      if x ∈ b.sites.map Site.id then some name else e.spellings.get? x := by
  rw [respellSites_eq]
  induction b.sites generalizing e with
  | nil => simp
  | cons site rest ih =>
    rw [List.foldl_cons, ih, spellings_respellSite, Table.get?_set]
    simp only [List.map_cons, List.mem_cons]
    by_cases hrest : x ∈ rest.map Site.id
    · rw [if_pos hrest, if_pos (.inr hrest)]
    · rw [if_neg hrest]
      simp only [hrest, or_false, eq_comm]

/-- The sites of a binding take the new name, and every other identifier keeps its spelling. -/
theorem spelling_respellSites (b : Binding) (name : String) (e : Edits) (site : Site) :
    site.spelling (respellSites b name e) =
      if site.id ∈ b.sites.map Site.id then name else site.spelling e := by
  unfold Site.spelling Edits.spelling?
  rw [show site.identifier.head.id = site.id from rfl, spellings_respellSites]
  by_cases hsite : site.id ∈ b.sites.map Site.id
  · simp [hsite]
  · simp [hsite]

/-- The store is consistent and agrees with the tree: every site of a binding belongs to it and is
spelled with its name, and a reference to no binding belongs to nobody and is spelled as it was. -/
structure Tracks (s : Store) (e : Edits) (references : List Reference) : Prop where
  consistent : s.Consistent references
  owner : ∀ (id : BindingId) (b : Binding), s.bindings[id]? = some b → ∀ site ∈ b.sites,
    s.owners.get? site.id = some id
  referrer : ∀ ref ∈ references, s.owners.get? ref.site.id = ref.binding
  spelled : ∀ (id : BindingId) (b : Binding), s.bindings[id]? = some b → ∀ site ∈ b.sites,
    site.spelling e = b.name
  unbound : ∀ ref ∈ references, ref.binding = none → ref.site.spelling e = ref.site.name

namespace Tracks

variable {s : Store} {e : Edits} {references : List Reference}

/-- Every reference is spelled with the name under which the store knows it. -/
theorem spelling_eq_nameOf (h : s.Tracks e references) {ref : Reference} (href : ref ∈ references) :
    ref.site.spelling e = s.nameOf ref := by
  cases hbinding : ref.binding with
  | none =>
    rw [h.unbound ref href hbinding, nameOf, hbinding]
    rfl
  | some id =>
    have hfound := h.consistent.lookup ref href
    rw [hbinding] at hfound
    obtain ⟨b, hb, -, -⟩ := h.consistent.lookup?_some hfound
    rw [nameOf_eq_of_binding hb hbinding]
    apply h.spelled id b hb
    apply List.mem_append_right
    rw [h.consistent.mem_references_iff hb, ← hbinding]
    exact href

/-- The identifiers of two bindings are different. -/
theorem mem_ids_iff (h : s.Tracks e references) {id other : BindingId} {b c : Binding}
    (hb : s.bindings[id]? = some b) (hc : s.bindings[other]? = some c) {site : Site}
    (hsite : site ∈ c.sites) : site.id ∈ b.sites.map Site.id ↔ other = id := by
  constructor
  · intro hmem
    obtain ⟨twin, htwin, hid⟩ := List.mem_map.mp hmem
    have howner := h.owner id b hb twin htwin
    rw [hid, h.owner other c hc site hsite] at howner
    exact Option.some.inj howner
  · rintro rfl
    obtain rfl : b = c := Option.some.inj (hb.symm.trans hc)
    exact List.mem_map.mpr ⟨site, hsite, rfl⟩

/-- An accepted rename keeps store and tree in agreement. -/
theorem rekey (h : s.Tracks e references) {id : BindingId} {b : Binding} {name : String}
    (hb : s.bindings[id]? = some b) (hne : name ≠ b.name)
    (haccepted : s.refusal? id b name = none) :
    (s.rekey id b name).Tracks (respellSites b name e) references := by
  have hold {i : BindingId} {c : Binding} (hc : (s.rekey id b name).bindings[i]? = some c) :
      ∃ old, s.bindings[i]? = some old ∧ c.sites = old.sites ∧
        c.name = if i = id then name else old.name := by
    rw [getElem?_bindings_rekey] at hc
    by_cases hi : id = i
    · rw [if_pos hi] at hc
      obtain ⟨old, hold, rfl⟩ := Option.map_eq_some_iff.mp hc
      exact ⟨old, hold, rfl, (if_pos hi.symm).symm⟩
    · rw [if_neg hi] at hc
      exact ⟨c, hc, rfl, (if_neg (Ne.symm hi)).symm⟩
  constructor
  · exact h.consistent.rekey hb hne haccepted
  · intro i c hc site hsite
    obtain ⟨old, hold, hsites, -⟩ := hold hc
    exact h.owner i old hold site (hsites ▸ hsite)
  · exact h.referrer
  · intro i c hc site hsite
    obtain ⟨old, hold, hsites, hname⟩ := hold hc
    rw [hsites] at hsite
    rw [spelling_respellSites, hname, h.spelled i old hold site hsite]
    simp only [h.mem_ids_iff hb hold hsite]
  · intro ref href hunbound
    have hother : ref.site.id ∉ b.sites.map Site.id := by
      intro hmem
      obtain ⟨twin, htwin, hid⟩ := List.mem_map.mp hmem
      have howner := h.owner id b hb twin htwin
      rw [hid, h.referrer ref href, hunbound] at howner
      exact absurd howner (by simp)
    rw [spelling_respellSites, if_neg hother]
    exact h.unbound ref href hunbound

end Tracks

/-- The store of a program whose sites are different identifiers agrees with the program. -/
theorem tracks_ofFacts {facts : List Fact} (hfit : Fact.Fit {} facts)
    (hnodup : ((facts.flatMap Fact.sites).map Site.id).Nodup) :
    (ofFacts facts).Tracks {} ((ofFacts facts).refer (Fact.referredSites facts)) := by
  have howns := owns_ofFacts hfit hnodup
  constructor
  · exact consistent_ofFacts hfit
  · exact fun id b hb site hsite ↦ (howns.sites id b hb site hsite).2.1
  · exact fun ref href ↦ (howns.references ref href).2
  · exact fun id b hb site hsite ↦ (howns.sites id b hb site hsite).2.2
  · exact fun ref _ _ ↦ ref.site.spelling_empty

end Store

end Relabel
