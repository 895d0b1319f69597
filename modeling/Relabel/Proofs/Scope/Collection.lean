import Relabel.Proofs.Scope.Isomorphism
import Relabel.Proofs.Scope.Reading

/-!
# What a store collects

A store is built from facts one after the other. Its scopes are the ones that facts open, in this
order, and the number of a scope leads to the scopes around it. Its bindings are the declarations,
grouped by the scope that takes them and by their name.
-/

namespace Relabel

def Scope.opening (scope : Scope) : Opening :=
  ⟨scope.type, scope.node.id⟩

/-- What is settled about a scope when it is opened. -/
def Scope.core (scope : Scope) : ScopeType × Node × Option ScopeId :=
  (scope.type, scope.node, scope.parent)

namespace Fact

/-- The scope that a fact opens. -/
def core? : Fact → Option (ScopeType × Node × Option ScopeId)
  | opened type node parent => some (type, node, parent)
  | _ => none

/-- The declaration that a fact states. -/
def declaration? : Fact → Option (ScopeId × BindingKind × Site)
  | declared target kind site => some (target, kind, site)
  | _ => none

theorem declaredSites_eq (facts : List Fact) :
    declaredSites facts = (facts.filterMap declaration?).map (·.2.2) := by
  rw [List.map_filterMap, declaredSites]
  congr 1
  funext fact
  cases fact <;> rfl

end Fact

namespace Store

variable {s : Store} {id : ScopeId}

def opening? (s : Store) (id : ScopeId) : Option Opening :=
  s.scopes[id]?.map Scope.opening

/-- A scope and the scopes around it, innermost first. -/
def numbering (s : Store) : Numbering :=
  fun id ↦ (s.chain id).filterMap s.opening?

theorem head?_numbering (s : Store) (id : ScopeId) : (s.numbering id).head? = s.opening? id := by
  rw [numbering, chain_eq]
  cases hscope : s.scopes[id]? with
  | none => simp [opening?, outer?, hscope]
  | some scope =>
    have hopening : s.opening? id = some scope.opening := by simp [opening?, hscope]
    rw [List.filterMap_cons_some hopening, List.head?_cons, hopening]

theorem numbering_of_scopes {s' : Store} (h : s'.scopes = s.scopes) :
    s'.numbering = s.numbering := by
  have hopening : s'.opening? = s.opening? := by
    funext id
    rw [opening?, opening?, h]
  funext id
  rw [numbering, numbering, chain_of_scopes h, hopening]

theorem opening?_learn (fact : Fact) (hid : id < s.scopes.size) :
    (s.learn fact).opening? id = s.opening? id := by
  cases fact with
  | opened type node parent =>
    rw [learn, opening?, getElem?_openScope, if_neg hid.ne, Option.map_map, opening?]
    congr 1
    funext scope
    by_cases hparent : parent = some id <;> simp [hparent, Scope.opening]
  | placed node scope => rfl
  | declared target kind site =>
    rw [learn, opening?, getElem?_scopes_declare, Option.map_map, opening?]
    rfl
  | referred site => rfl

theorem chain_learn (fact : Fact) (hid : id < s.scopes.size) :
    (s.learn fact).chain id = s.chain id := by
  cases fact with
  | opened type node parent => exact chain_openScope s type node parent hid
  | placed node scope => exact chain_congr fun _ _ ↦ rfl
  | declared target kind site => exact chain_declare s target kind site id
  | referred site => rfl

theorem numbering_learn (fact : Fact) (hid : id < s.scopes.size) :
    (s.learn fact).numbering id = s.numbering id := by
  rw [numbering, numbering, chain_learn fact hid]
  apply List.filterMap_congr
  intro outer houter
  exact opening?_learn fact ((le_of_mem_chain houter).trans_lt hid)

theorem numbering_foldl_learn (facts : List Fact) (hid : id < s.scopes.size) :
    (facts.foldl learn s).numbering id = s.numbering id := by
  induction facts generalizing s with
  | nil => rfl
  | cons fact rest ih =>
    have hlearned : id < (s.learn fact).scopes.size := by
      rw [size_learn]
      exact Nat.lt_add_right _ hid
    rw [List.foldl_cons, ih hlearned, numbering_learn fact hid]

/-- A new scope lies directly inside the scope in which it is opened. -/
theorem numbering_openScope (type : ScopeType) (node : Node) {parent : Option ScopeId}
    (hparent : ∀ outer, parent = some outer → outer < s.scopes.size) :
    (s.openScope type node parent).numbering s.scopes.size =
      ⟨type, node.id⟩ :: parent.elim [] (s.openScope type node parent).numbering := by
  have hopening : (s.openScope type node parent).opening? s.scopes.size =
      some ⟨type, node.id⟩ := by
    rw [opening?, getElem?_openScope, if_pos rfl]
    rfl
  rw [numbering, chain_eq, List.filterMap_cons_some hopening, outer?_openScope, if_pos rfl]
  cases parent with
  | none => rfl
  | some outer =>
    simp only [hparent outer rfl, if_true]
    rfl

theorem numbers_foldl_learn {facts : List Fact} (hfit : Fact.Fit s facts) :
    Fact.Numbers (facts.foldl learn s).numbering s.scopes.size facts := by
  induction facts generalizing s with
  | nil => trivial
  | cons fact rest ih =>
    have hrest := ih hfit.2
    rw [size_learn] at hrest
    cases fact with
    | opened type node parent =>
      have hparent : ∀ outer, parent = some outer → outer < s.scopes.size := hfit.1
      have hsize : s.scopes.size < (s.openScope type node parent).scopes.size := by
        rw [size_openScope]
        exact Nat.lt_succ_self _
      refine ⟨?_, hrest⟩
      rw [List.foldl_cons, learn, numbering_foldl_learn rest hsize,
        numbering_openScope type node hparent]
      cases parent with
      | none => rfl
      | some outer =>
        rw [Option.elim_some, Option.elim_some,
          numbering_foldl_learn rest ((hparent outer rfl).trans hsize)]
    | _ => exact hrest

/-- The scopes of a store with the scopes around them. -/
def regions (s : Store) : List Lexical.Region :=
  s.scopes.toList.map fun scope ↦ ⟨scope.type, scope.node, scope.parent.elim [] s.numbering⟩

theorem cores_learn (s : Store) (fact : Fact) :
    (s.learn fact).scopes.toList.map Scope.core =
      s.scopes.toList.map Scope.core ++ fact.core?.toList := by
  cases fact with
  | opened type node parent =>
    apply List.ext_getElem?
    intro i
    rw [List.getElem?_map, Array.getElem?_toList, learn, getElem?_openScope, List.getElem?_append,
      List.length_map, Array.length_toList, List.getElem?_map, Array.getElem?_toList]
    by_cases hi : i = s.scopes.size
    · simp [hi, Fact.core?, Scope.core]
    · rw [if_neg hi, Option.map_map]
      by_cases hlt : i < s.scopes.size
      · rw [if_pos hlt]
        congr 1
        funext scope
        by_cases hparent : parent = some i <;> simp [hparent, Scope.core]
      · obtain ⟨k, hk⟩ : ∃ k, i - s.scopes.size = k + 1 := ⟨i - s.scopes.size - 1, by omega⟩
        simp [hlt, hk, Fact.core?]
  | placed node scope => simp [learn, Fact.core?]
  | declared target kind site =>
    apply List.ext_getElem?
    intro i
    simp only [learn, Fact.core?, Option.toList_none, List.append_nil, List.getElem?_map,
      Array.getElem?_toList, getElem?_scopes_declare, Option.map_map]
    rfl
  | referred site => simp [learn, Fact.core?]

/-- The scopes of a store are those that facts opened, in this order. -/
theorem cores_foldl_learn (s : Store) (facts : List Fact) :
    (facts.foldl learn s).scopes.toList.map Scope.core =
      s.scopes.toList.map Scope.core ++ facts.filterMap Fact.core? := by
  induction facts generalizing s with
  | nil => simp
  | cons fact rest ih =>
    rw [List.foldl_cons, ih, cores_learn, List.append_assoc]
    cases hcore : fact.core? with
    | none => rw [List.filterMap_cons_none hcore]; rfl
    | some core => rw [List.filterMap_cons_some hcore]; rfl

/-! ## The declarations of a store -/

/-- The bindings of a store are the declarations that facts stated, grouped by scope and name, and
none was renamed. -/
structure Collects (s : Store) (stated : List (ScopeId × BindingKind × Site)) : Prop where
  declarations : ∀ (id : BindingId) (b : Binding), s.bindings[id]? = some b →
    b.declarations = (stated.filter fun d ↦ d.1 = b.scope ∧ d.2.2.name = b.name).map (·.2.2)
  kind : ∀ (id : BindingId) (b : Binding), s.bindings[id]? = some b →
    ∃ d ∈ stated, d.1 = b.scope ∧ d.2.2.name = b.name ∧ d.2.1 = b.kind
  complete : ∀ d ∈ stated, (s.own? d.1 d.2.2.name).isSome = true
  renamed : ∀ (id : BindingId) (b : Binding), s.bindings[id]? = some b → b.renamed = false

theorem collects_empty : ({} : Store).Collects [] where
  declarations := by simp
  kind := by simp
  complete := by simp
  renamed := by simp

/-- A declaration of a new name in a scope is the first one that was stated. -/
theorem Collects.filter_eq_nil {stated : List (ScopeId × BindingKind × Site)}
    (h : s.Collects stated) {target : ScopeId} {name : String} (hown : s.own? target name = none) :
    stated.filter (fun d ↦ d.1 = target ∧ d.2.2.name = name) = [] := by
  apply List.filter_eq_nil_iff.mpr
  intro d hd hsame
  obtain ⟨hscope, hname⟩ := of_decide_eq_true hsame
  have hsome := h.complete d hd
  rw [hscope, hname, hown] at hsome
  exact absurd hsome (by simp)

theorem Collects.declare {stated : List (ScopeId × BindingKind × Site)} (h : s.Collects stated)
    (hs : s.Consistent []) {target : ScopeId} (htarget : target < s.scopes.size)
    (kind : BindingKind) (site : Site) :
    (s.declare target kind site).Collects (stated ++ [(target, kind, site)]) := by
  obtain ⟨hscope, hname⟩ := hs.declaredBinding_eq target kind site
  constructor
  · intro id b hb
    rw [getElem?_bindings_declare hs] at hb
    split at hb
    · obtain rfl := Option.some.inj hb
      rw [hscope, hname, List.filter_append, List.map_append]
      cases hown : s.own? target site.name with
      | none =>
        rw [h.filter_eq_nil hown]
        simp [declaredBinding, declaree, hown]
      | some found =>
        obtain ⟨old, hold, rfl, hsame⟩ := (hs.own_iff _ _ _).mp hown
        rw [← hsame, ← h.declarations found old hold]
        simp [declaredBinding, declaree, hown, hold, hsame]
    · rename_i hid
      have hother : ¬ (target = b.scope ∧ site.name = b.name) := by
        rintro ⟨rfl, hsame⟩
        rw [declaree, hsame, hs.own hb] at hid
        exact hid rfl
      rw [h.declarations id b hb, List.filter_append]
      simp [hother]
  · intro id b hb
    rw [getElem?_bindings_declare hs] at hb
    split at hb
    · obtain rfl := Option.some.inj hb
      cases hown : s.own? target site.name with
      | none =>
        refine ⟨(target, kind, site), by simp, hscope.symm, hname.symm, ?_⟩
        simp [declaredBinding, declaree, hown]
      | some found =>
        obtain ⟨old, hold, -, -⟩ := (hs.own_iff _ _ _).mp hown
        obtain ⟨d, hd, hdscope, hdname, hdkind⟩ := h.kind found old hold
        refine ⟨d, List.mem_append_left _ hd, ?_⟩
        simpa [declaredBinding, declaree, hown, hold] using ⟨hdscope, hdname, hdkind⟩
    · obtain ⟨d, hd, hrest⟩ := h.kind id b hb
      exact ⟨d, List.mem_append_left _ hd, hrest⟩
  · intro d hd
    rw [own?_declare htarget]
    split
    · rfl
    · rename_i hother
      rcases List.mem_append.mp hd with hd | hd
      · exact h.complete d hd
      · obtain rfl := List.mem_singleton.mp hd
        exact absurd ⟨rfl, rfl⟩ hother
  · intro id b hb
    rw [getElem?_bindings_declare hs] at hb
    split at hb
    · obtain rfl := Option.some.inj hb
      cases hold : s.bindings[s.declaree target site.name]? with
      | none => simp [declaredBinding, hold]
      | some old =>
        rw [declaredBinding, hold]
        exact h.renamed _ old hold
    · exact h.renamed id b hb

theorem Collects.foldl_learn {stated : List (ScopeId × BindingKind × Site)} (h : s.Collects stated)
    (hs : s.Consistent []) {facts : List Fact} (hfit : Fact.Fit s facts) :
    (facts.foldl learn s).Collects (stated ++ facts.filterMap Fact.declaration?) := by
  induction facts generalizing s stated with
  | nil => simpa using h
  | cons fact rest ih =>
    have hconsistent := hs.learn hfit.1
    cases fact with
    | opened type node parent =>
      refine ih ⟨h.declarations, h.kind, fun d hd ↦ ?_, h.renamed⟩ hconsistent hfit.2
      rw [learn, own?_openScope]
      exact h.complete d hd
    | placed node scope =>
      exact ih ⟨h.declarations, h.kind, h.complete, h.renamed⟩ hconsistent hfit.2
    | referred site => exact ih h hconsistent hfit.2
    | declared target kind site =>
      have hrest := ih (h.declare hs hfit.1.1 kind site) hconsistent hfit.2
      rwa [List.append_assoc] at hrest

/-- Resolving references changes nothing about a binding but its references. -/
theorem getElem?_bindings_foldl_resolve (sites : List Site) (s : Store) (id : BindingId) :
    (sites.foldl Store.resolve s).bindings[id]?.map (fun b ↦ { b with references := [] }) =
      s.bindings[id]?.map fun b ↦ { b with references := [] } := by
  induction sites generalizing s with
  | nil => rfl
  | cons site rest ih =>
    rw [List.foldl_cons, ih, getElem?_bindings_resolve, Option.map_map]
    congr 1
    funext b
    by_cases hfound : s.lookup? site.scope site.name = some id <;> simp [hfound]

/-- A binding is as the declarations made it, but for its references. -/
theorem exists_learned {facts : List Fact} {id : BindingId} {b : Binding}
    (hb : (ofFacts facts).bindings[id]? = some b) :
    ∃ old, (facts.foldl learn {}).bindings[id]? = some old ∧ old.scope = b.scope ∧
      old.name = b.name ∧ old.kind = b.kind ∧ old.declarations = b.declarations ∧
        old.renamed = b.renamed := by
  have hsame := getElem?_bindings_foldl_resolve (Fact.referredSites facts)
    (facts.foldl learn {}) id
  rw [← ofFacts_eq, hb, Option.map_some, eq_comm] at hsame
  obtain ⟨old, hold, heq⟩ := Option.map_eq_some_iff.mp hsame
  obtain ⟨hname, hkind, hscope, hdeclarations, -, hrenamed⟩ := Binding.mk.inj heq
  exact ⟨old, hold, hscope, hname, hkind, hdeclarations, hrenamed⟩

theorem collects_ofFacts {facts : List Fact} (hfit : Fact.Fit {} facts) :
    (ofFacts facts).Collects (facts.filterMap Fact.declaration?) := by
  have hlearned := collects_empty.foldl_learn consistent_empty hfit
  rw [List.nil_append] at hlearned
  constructor
  · intro id b hb
    obtain ⟨old, hold, hscope, hname, -, hdeclarations, -⟩ := exists_learned hb
    rw [← hdeclarations, ← hscope, ← hname]
    exact hlearned.declarations id old hold
  · intro id b hb
    obtain ⟨old, hold, hscope, hname, hkind, -⟩ := exists_learned hb
    rw [← hscope, ← hname, ← hkind]
    exact hlearned.kind id old hold
  · intro d hd
    have hscopes : (ofFacts facts).scopes = (facts.foldl learn {}).scopes := by
      rw [ofFacts_eq, scopes_foldl_resolve]
    rw [own?, hscopes]
    exact hlearned.complete d hd
  · intro id b hb
    obtain ⟨old, hold, -, -, -, -, hrenamed⟩ := exists_learned hb
    rw [← hrenamed]
    exact hlearned.renamed id old hold

end Store

end Relabel
