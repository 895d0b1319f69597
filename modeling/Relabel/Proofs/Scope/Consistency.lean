import Relabel.Proofs.Scope.Chain
import Relabel.Proofs.Table
import Relabel.Scope.Analysis

/-!
# Consistent stores

A store keeps the same facts in several places: the tables of its scopes, the names of its bindings,
their lists of sites and the index by name. It is consistent if these agree with each other and
every reference looks up the binding recorded for it. Each step of the analysis keeps a store
consistent, provided that a fact only speaks of scopes that are open.
-/

namespace Relabel

namespace Store

variable {s s' : Store} {references : List Reference}

/-- The spelling a store knows for a reference: the name of its binding, or its own one. -/
def nameOf (s : Store) (ref : Reference) : String :=
  match ref.binding.bind (s.bindings[·]?) with
  | some b => b.name
  | none => ref.site.name

/-- The references that the index has under a name. -/
def filed (s : Store) (name : String) : List Reference :=
  (s.index.get? name).getD []

structure Consistent (s : Store) (references : List Reference) : Prop where
  outer_lt : ∀ id outer, s.outer? id = some outer → outer < id
  children : ∀ (id : ScopeId) (scope : Scope), s.scopes[id]? = some scope →
    scope.children.Nodup ∧ ∀ inner, inner ∈ scope.children ↔ s.outer? inner = some id
  keys : ∀ (id : ScopeId) (scope : Scope), s.scopes[id]? = some scope → scope.table.keys.Nodup
  own_iff : ∀ scope name id, s.own? scope name = some id ↔
    ∃ b, s.bindings[id]? = some b ∧ b.scope = scope ∧ b.name = name
  within : ∀ (id : BindingId) (b : Binding), s.bindings[id]? = some b →
    ∀ site ∈ b.sites, b.scope ∈ s.chain site.scope
  lookup : ∀ ref ∈ references, s.lookup? ref.site.scope (s.nameOf ref) = ref.binding
  index : ∀ name, (s.filed name).Perm (references.filter fun ref ↦ s.nameOf ref = name)
  sites : ∀ (id : BindingId) (b : Binding), s.bindings[id]? = some b →
    b.references = (references.filter fun ref ↦ ref.binding = some id).map (·.site)

namespace Consistent

theorem own (h : s.Consistent references) {id : BindingId} {b : Binding}
    (hb : s.bindings[id]? = some b) : s.own? b.scope b.name = some id :=
  (h.own_iff _ _ _).mpr ⟨b, hb, rfl, rfl⟩

/-- A binding is known by its scope and its name. -/
theorem binding_inj (h : s.Consistent references) {i j : BindingId} {b c : Binding}
    (hi : s.bindings[i]? = some b) (hj : s.bindings[j]? = some c)
    (hscope : b.scope = c.scope) (hname : b.name = c.name) : i = j := by
  have hown := h.own hi
  rw [hscope, hname, h.own hj] at hown
  exact (Option.some.inj hown).symm

/-- Whatever a look-up finds is a binding of the name, in a scope of the chain. -/
theorem lookup?_some (h : s.Consistent references) {a : ScopeId} {name : String} {id : BindingId}
    (hfound : s.lookup? a name = some id) :
    ∃ b, s.bindings[id]? = some b ∧ b.name = name ∧ b.scope ∈ s.chain a := by
  obtain ⟨scope, hmem, hown⟩ := exists_own?_of_lookup? hfound
  obtain ⟨b, hb, rfl, hname⟩ := (h.own_iff _ _ _).mp hown
  exact ⟨b, hb, hname, hmem⟩

end Consistent

theorem outer?_modify {target : ScopeId} {g : Table String BindingId → Table String BindingId}
    (hs : s'.scopes = s.scopes.modify target fun scope ↦ { scope with table := g scope.table })
    (id : ScopeId) : s'.outer? id = s.outer? id := by
  rw [outer?, outer?, hs, Array.getElem?_modify]
  by_cases hid : target = id
  · subst hid
    cases s.scopes[target]? <;> simp
  · simp [hid]

theorem own?_modify {target : ScopeId} {g : Table String BindingId → Table String BindingId}
    (hs : s'.scopes = s.scopes.modify target fun scope ↦ { scope with table := g scope.table })
    (id : ScopeId) (name : String) :
    s'.own? id name =
      if target = id then s.scopes[id]?.bind fun scope ↦ (g scope.table).get? name
      else s.own? id name := by
  rw [own?, own?, hs, Array.getElem?_modify]
  by_cases hid : target = id
  · subst hid
    cases s.scopes[target]? <;> simp
  · simp [hid]

theorem chain_modify {target : ScopeId} {g : Table String BindingId → Table String BindingId}
    (hs : s'.scopes = s.scopes.modify target fun scope ↦ { scope with table := g scope.table })
    (a : ScopeId) : s'.chain a = s.chain a :=
  chain_congr fun id _ ↦ outer?_modify hs id

theorem getElem?_openScope (s : Store) (type : ScopeType) (node : Node) (parent : Option ScopeId)
    (id : ScopeId) :
    (s.openScope type node parent).scopes[id]? =
      if id = s.scopes.size then some { type, node, parent }
      else s.scopes[id]?.map fun scope ↦
        if parent = some id then { scope with children := scope.children ++ [s.scopes.size] }
        else scope := by
  cases parent with
  | none => simp [openScope, Array.getElem?_push]
  | some outer =>
    simp only [openScope, Array.getElem?_push, Array.size_modify, Array.getElem?_modify,
      Option.some.injEq]
    by_cases hout : outer = id <;> simp [hout]

theorem outer?_openScope (s : Store) (type : ScopeType) (node : Node) (parent : Option ScopeId)
    (id : ScopeId) :
    (s.openScope type node parent).outer? id =
      if id = s.scopes.size then parent else s.outer? id := by
  rw [outer?, getElem?_openScope, outer?]
  by_cases hid : id = s.scopes.size
  · simp [hid]
  · cases s.scopes[id]? with
    | none => simp [hid]
    | some scope => by_cases hparent : parent = some id <;> simp [hid, hparent]

theorem own?_openScope (s : Store) (type : ScopeType) (node : Node) (parent : Option ScopeId)
    (id : ScopeId) (name : String) :
    (s.openScope type node parent).own? id name = s.own? id name := by
  rw [own?, getElem?_openScope, own?]
  by_cases hid : id = s.scopes.size
  · simp [hid]
  · cases s.scopes[id]? with
    | none => simp [hid]
    | some scope => by_cases hparent : parent = some id <;> simp [hid, hparent]

theorem size_openScope (s : Store) (type : ScopeType) (node : Node) (parent : Option ScopeId) :
    (s.openScope type node parent).scopes.size = s.scopes.size + 1 := by
  cases parent <;> simp [openScope]

theorem chain_openScope (s : Store) (type : ScopeType) (node : Node) (parent : Option ScopeId)
    {a : ScopeId} (ha : a < s.scopes.size) :
    (s.openScope type node parent).chain a = s.chain a := by
  apply chain_congr
  intro id hid
  have hne : id ≠ s.scopes.size := (hid.trans_lt ha).ne
  rw [outer?_openScope, if_neg hne]

theorem lt_size_of_outer? {id outer : ScopeId} (h : s.outer? id = some outer) :
    id < s.scopes.size := by
  obtain ⟨scope, hscope, -⟩ := Option.bind_eq_some_iff.mp h
  exact (Array.getElem?_eq_some_iff.mp hscope).1

theorem mem_chain_openScope (type : ScopeType) (node : Node) (parent : Option ScopeId)
    {a b : ScopeId} (h : b ∈ s.chain a) : b ∈ (s.openScope type node parent).chain a := by
  obtain rfl | ⟨outer, houter, -⟩ := mem_chain_iff.mp h
  · exact mem_chain_self _ _
  · rwa [chain_openScope s type node parent (lt_size_of_outer? houter)]

/-! ## The steps of the analysis -/

theorem consistent_empty : ({} : Store).Consistent [] where
  outer_lt := by simp [outer?]
  children := by simp
  keys := by simp
  own_iff := by simp [own?]
  within := by simp
  lookup := by simp
  index := by simp [filed]
  sites := by simp

/-- Consistency does not depend on where nodes sit and to whom identifiers belong. -/
theorem Consistent.congr (h : s.Consistent references) (hscopes : s'.scopes = s.scopes)
    (hbindings : s'.bindings = s.bindings) (hindex : s'.index = s.index) :
    s'.Consistent references := by
  have houter : ∀ id, s'.outer? id = s.outer? id := fun id ↦ by rw [outer?, outer?, hscopes]
  have hown : ∀ scope name, s'.own? scope name = s.own? scope name :=
    fun scope name ↦ by rw [own?, own?, hscopes]
  have hchain : ∀ a, s'.chain a = s.chain a := fun a ↦ chain_congr fun id _ ↦ houter id
  have hname : ∀ ref, s'.nameOf ref = s.nameOf ref := fun ref ↦ by rw [nameOf, nameOf, hbindings]
  constructor
  · simpa only [houter] using h.outer_lt
  · simpa only [houter, hscopes] using h.children
  · simpa only [hscopes] using h.keys
  · simpa only [hown, hbindings] using h.own_iff
  · simpa only [hchain, hbindings] using h.within
  · intro ref href
    rw [lookup?_congr (hchain _) fun scope _ ↦ hown scope _, hname]
    exact h.lookup ref href
  · simpa only [filed, hindex, hname] using h.index
  · simpa only [hbindings] using h.sites

/-- The new scope is the last child of the scope around it. -/
theorem Consistent.children_openScope (h : s.Consistent []) (type : ScopeType) (node : Node)
    {parent : Option ScopeId} (hparent : ∀ outer, parent = some outer → outer < s.scopes.size)
    {id : ScopeId} {scope : Scope}
    (hscope : (s.openScope type node parent).scopes[id]? = some scope) :
    scope.children.Nodup ∧ ∀ inner, inner ∈ scope.children ↔
      (s.openScope type node parent).outer? inner = some id := by
  rw [getElem?_openScope] at hscope
  simp only [outer?_openScope]
  split at hscope
  · rename_i hid
    subst hid
    obtain rfl := Option.some.inj hscope
    refine ⟨List.nodup_nil, fun inner ↦ ⟨fun hin ↦ absurd hin List.not_mem_nil, ?_⟩⟩
    intro hout
    split at hout
    · exact absurd (hparent _ hout) (Nat.lt_irrefl _)
    · exact absurd ((h.outer_lt _ _ hout).trans (lt_size_of_outer? hout)) (Nat.lt_irrefl _)
  · rename_i hid
    obtain ⟨old, hold, rfl⟩ := Option.map_eq_some_iff.mp hscope
    obtain ⟨hnodup, hmem⟩ := h.children id old hold
    have hfresh : s.scopes.size ∉ old.children := fun hin ↦
      Nat.lt_irrefl _ (lt_size_of_outer? ((hmem _).mp hin))
    by_cases hp : parent = some id
    · simp only [hp, if_true, List.nodup_append, List.mem_append, List.mem_singleton, hmem]
      refine ⟨⟨hnodup, by simp, ?_⟩, fun inner ↦ ?_⟩
      · rintro inner hin _ rfl rfl
        exact hfresh ((hmem _).mpr hin)
      · by_cases hinner : inner = s.scopes.size <;> simp [hinner]
    · simp only [hp, if_false, hmem]
      refine ⟨hnodup, fun inner ↦ ?_⟩
      by_cases hinner : inner = s.scopes.size
      · subst hinner
        simp only [if_true, hp, iff_false]
        exact fun hout ↦ hfresh ((hmem _).mpr hout)
      · simp [hinner]

theorem Consistent.openScope (h : s.Consistent []) (type : ScopeType) (node : Node)
    {parent : Option ScopeId} (hparent : ∀ outer, parent = some outer → outer < s.scopes.size) :
    (s.openScope type node parent).Consistent [] where
  outer_lt id outer hout := by
    rw [outer?_openScope] at hout
    split at hout
    · rename_i hid
      rw [hid]
      exact hparent outer hout
    · exact h.outer_lt id outer hout
  children _ _ hscope := h.children_openScope type node hparent hscope
  keys id scope hscope := by
    rw [getElem?_openScope] at hscope
    split at hscope
    · obtain rfl := Option.some.inj hscope
      exact List.nodup_nil
    · obtain ⟨old, hold, rfl⟩ := Option.map_eq_some_iff.mp hscope
      split <;> exact h.keys id old hold
  own_iff scope name id := by
    rw [own?_openScope]
    exact h.own_iff scope name id
  within id b hb site hsite := mem_chain_openScope type node parent (h.within id b hb site hsite)
  lookup := by simp
  index := h.index
  sites := h.sites

section Declare

variable {target : ScopeId} {kind : BindingKind} {site : Site}

/-- The binding that a declaration goes to: the one that has the name, or a new one. -/
def declaree (s : Store) (target : ScopeId) (name : String) : BindingId :=
  (s.own? target name).getD s.bindings.size

/-- The binding after the declaration. -/
def declaredBinding (s : Store) (target : ScopeId) (kind : BindingKind) (site : Site) : Binding :=
  match s.bindings[s.declaree target site.name]? with
  | some b => { b with declarations := b.declarations ++ [site] }
  | none => { name := site.name, kind, scope := target, declarations := [site] }

theorem getElem?_scopes_declare (s : Store) (target : ScopeId) (kind : BindingKind) (site : Site)
    (id : ScopeId) :
    (s.declare target kind site).scopes[id]? = s.scopes[id]?.map fun scope ↦
      { scope with
        table := if s.own? target site.name = none ∧ target = id then
          scope.table.set site.name s.bindings.size else scope.table } := by
  cases hown : s.own? target site.name with
  | some found => simp [declare, hown]
  | none =>
    simp only [declare, hown, Array.getElem?_modify, true_and]
    by_cases hid : target = id <;> simp [hid]

theorem outer?_declare (s : Store) (target : ScopeId) (kind : BindingKind) (site : Site)
    (id : ScopeId) : (s.declare target kind site).outer? id = s.outer? id := by
  rw [outer?, getElem?_scopes_declare, outer?]
  cases s.scopes[id]? <;> rfl

theorem chain_declare (s : Store) (target : ScopeId) (kind : BindingKind) (site : Site)
    (a : ScopeId) : (s.declare target kind site).chain a = s.chain a :=
  chain_congr fun id _ ↦ outer?_declare s target kind site id

theorem index_declare (s : Store) (target : ScopeId) (kind : BindingKind) (site : Site) :
    (s.declare target kind site).index = s.index := by
  unfold declare
  split <;> rfl

theorem own?_declare (htarget : target < s.scopes.size) (scope : ScopeId) (name : String) :
    (s.declare target kind site).own? scope name =
      if target = scope ∧ site.name = name then some (s.declaree target site.name)
      else s.own? scope name := by
  rw [own?, getElem?_scopes_declare, declaree]
  by_cases hscope : target = scope
  · subst hscope
    have hsome : s.scopes[target]? = some s.scopes[target] := Array.getElem?_eq_getElem htarget
    by_cases hname : site.name = name
    · subst hname
      cases hown : s.own? target site.name with
      | none => simp [hsome]
      | some found => simpa [hsome, own?] using hown
    · cases hown : s.own? target site.name with
      | none => simp [hsome, own?, hname, Table.get?_set]
      | some found => simp [hsome, own?, hname]
  · cases hsome : s.scopes[scope]? with
    | none => simp [hscope, own?, hsome]
    | some found => simp [hscope, own?, hsome]

theorem getElem?_bindings_declare (h : s.Consistent references) (target : ScopeId)
    (kind : BindingKind) (site : Site) (i : BindingId) :
    (s.declare target kind site).bindings[i]? =
      if i = s.declaree target site.name then some (s.declaredBinding target kind site)
      else s.bindings[i]? := by
  cases hown : s.own? target site.name with
  | some id =>
    obtain ⟨old, hold, -, -⟩ := (h.own_iff _ _ _).mp hown
    simp only [declare, hown, declaredBinding, declaree, Option.getD_some, hold,
      Array.getElem?_modify]
    by_cases hi : i = id
    · simp [hi, hold]
    · simp [hi, Ne.symm hi]
  | none => simp [declare, hown, declaredBinding, declaree, Array.getElem?_push]

/-- The declaration goes to a binding of its name in the scope that takes it. -/
theorem Consistent.declaredBinding_eq (h : s.Consistent references) (target : ScopeId)
    (kind : BindingKind) (site : Site) :
    (s.declaredBinding target kind site).scope = target ∧
      (s.declaredBinding target kind site).name = site.name := by
  unfold declaredBinding declaree
  cases hown : s.own? target site.name with
  | none => simp
  | some id =>
    obtain ⟨old, hold, hscope, hname⟩ := (h.own_iff _ _ _).mp hown
    simp [hold, hscope, hname]

theorem mem_sites_declaredBinding {other : Site}
    (hother : other ∈ (s.declaredBinding target kind site).sites) :
    other = site ∨
      ∃ old, s.bindings[s.declaree target site.name]? = some old ∧ other ∈ old.sites := by
  unfold declaredBinding at hother
  cases hold : s.bindings[s.declaree target site.name]? with
  | none =>
    rw [hold] at hother
    exact .inl (by simpa [Binding.sites] using hother)
  | some old =>
    rw [hold] at hother
    simp only [Binding.sites, List.mem_append, List.mem_singleton] at hother ⊢
    rcases hother with (hdeclaration | rfl) | hreference
    · exact .inr ⟨old, rfl, .inl hdeclaration⟩
    · exact .inl rfl
    · exact .inr ⟨old, rfl, .inr hreference⟩

theorem Consistent.own_iff_declare (h : s.Consistent references) (htarget : target < s.scopes.size)
    (scope : ScopeId) (name : String) (i : BindingId) :
    (s.declare target kind site).own? scope name = some i ↔
      ∃ b, (s.declare target kind site).bindings[i]? = some b ∧ b.scope = scope ∧
        b.name = name := by
  obtain ⟨hscope, hname⟩ := h.declaredBinding_eq target kind site
  rw [own?_declare htarget, getElem?_bindings_declare h]
  by_cases hi : i = s.declaree target site.name
  · -- The binding has its scope and name, and what was found there before was the binding itself.
    rw [if_pos hi]
    by_cases hhere : target = scope ∧ site.name = name
    · rw [if_pos hhere, hi]
      exact ⟨fun _ ↦ ⟨_, rfl, hscope.trans hhere.1, hname.trans hhere.2⟩, fun _ ↦ rfl⟩
    · rw [if_neg hhere]
      have hother : s.own? scope name ≠ some i := by
        intro hown
        obtain ⟨b, hb, hbscope, hbname⟩ := (h.own_iff _ _ _).mp hown
        apply hhere
        rw [← hbscope, ← hbname, ← hscope, ← hname, declaredBinding, ← hi, hb]
        exact ⟨rfl, rfl⟩
      simp [hother, hscope, hname, hhere]
  · rw [if_neg hi, ← h.own_iff]
    by_cases hhere : target = scope ∧ site.name = name
    · obtain ⟨rfl, rfl⟩ := hhere
      have hother : s.own? target site.name ≠ some i := by
        intro hown
        exact hi (by rw [declaree, hown, Option.getD_some])
      simp [hother, Ne.symm hi]
    · rw [if_neg hhere]

theorem Consistent.declare (h : s.Consistent []) (htarget : target < s.scopes.size)
    (hsite : target ∈ s.chain site.scope) (kind : BindingKind) :
    (s.declare target kind site).Consistent [] where
  outer_lt := by simpa only [outer?_declare] using h.outer_lt
  children id scope hscope := by
    rw [getElem?_scopes_declare] at hscope
    obtain ⟨old, hold, rfl⟩ := Option.map_eq_some_iff.mp hscope
    simpa only [outer?_declare] using h.children id old hold
  keys id scope hscope := by
    rw [getElem?_scopes_declare] at hscope
    obtain ⟨old, hold, rfl⟩ := Option.map_eq_some_iff.mp hscope
    simp only
    split
    · exact Table.nodup_keys_set (h.keys id old hold) _ _
    · exact h.keys id old hold
  own_iff := h.own_iff_declare htarget
  within i b hb other hother := by
    rw [chain_declare]
    rw [getElem?_bindings_declare h] at hb
    split at hb
    · obtain rfl := Option.some.inj hb
      rw [(h.declaredBinding_eq target kind site).1]
      rcases mem_sites_declaredBinding hother with rfl | ⟨old, hold, hother⟩
      · exact hsite
      · have hscope := (h.declaredBinding_eq target kind site).1
        rw [declaredBinding, hold] at hscope
        rw [← hscope]
        exact h.within _ old hold other hother
    · exact h.within i b hb other hother
  lookup := by simp
  index := by
    simpa [filed, index_declare] using h.index
  sites i b hb := by
    rw [getElem?_bindings_declare h] at hb
    split at hb
    · rename_i hi
      obtain rfl := Option.some.inj hb
      unfold declaredBinding
      rw [← hi]
      cases hold : s.bindings[i]? with
      | none => rfl
      | some old => exact h.sites i old hold
    · exact h.sites i b hb

end Declare

/-! ## Resolving references -/

theorem resolve_of_some {site : Site} {id : BindingId}
    (h : s.lookup? site.scope site.name = some id) :
    s.resolve site =
      { s with
        index := s.index.set site.name (s.filed site.name ++ [⟨site, some id⟩])
        bindings := s.bindings.modify id fun b ↦ { b with references := b.references ++ [site] }
        owners := s.owners.set site.id id } := by
  simp only [resolve, h, filed]

theorem resolve_of_none {site : Site} (h : s.lookup? site.scope site.name = none) :
    s.resolve site =
      { s with
        index := s.index.set site.name (s.filed site.name ++ [⟨site, none⟩])
        free := site.id :: s.free } := by
  simp only [resolve, h, filed]

@[simp]
theorem scopes_resolve (s : Store) (site : Site) : (s.resolve site).scopes = s.scopes := by
  cases hfound : s.lookup? site.scope site.name with
  | none => rw [resolve_of_none hfound]
  | some id => rw [resolve_of_some hfound]

theorem own?_resolve (s : Store) (site : Site) (scope : ScopeId) (name : String) :
    (s.resolve site).own? scope name = s.own? scope name := by
  rw [own?, scopes_resolve, own?]

theorem outer?_resolve (s : Store) (site : Site) (id : ScopeId) :
    (s.resolve site).outer? id = s.outer? id := by
  rw [outer?, scopes_resolve, outer?]

theorem chain_resolve (s : Store) (site : Site) (a : ScopeId) :
    (s.resolve site).chain a = s.chain a :=
  chain_congr fun id _ ↦ outer?_resolve s site id

theorem lookup?_resolve (s : Store) (site : Site) (a : ScopeId) (name : String) :
    (s.resolve site).lookup? a name = s.lookup? a name :=
  lookup?_congr (chain_resolve s site a) fun scope _ ↦ own?_resolve s site scope name

/-- Only the binding that is found gets one more reference. -/
theorem getElem?_bindings_resolve (s : Store) (site : Site) (id : BindingId) :
    (s.resolve site).bindings[id]? = s.bindings[id]?.map fun b ↦
      if s.lookup? site.scope site.name = some id then
        { b with references := b.references ++ [site] }
      else b := by
  cases hfound : s.lookup? site.scope site.name with
  | none =>
    rw [resolve_of_none hfound]
    simp
  | some found =>
    rw [resolve_of_some hfound, Array.getElem?_modify]
    by_cases hid : found = id <;> simp [hid]

theorem nameOf_resolve (s : Store) (site : Site) (ref : Reference) :
    (s.resolve site).nameOf ref = s.nameOf ref := by
  unfold nameOf
  cases ref.binding with
  | none => rfl
  | some id =>
    simp only [Option.bind_some, getElem?_bindings_resolve]
    cases s.bindings[id]? with
    | none => rfl
    | some b => by_cases hfound : s.lookup? site.scope site.name = some id <;> simp [hfound]

theorem filed_resolve (s : Store) (site : Site) (name : String) :
    (s.resolve site).filed name = s.filed name ++
      if site.name = name then [⟨site, s.lookup? site.scope site.name⟩] else [] := by
  have hindex : (s.resolve site).index = s.index.set site.name
      (s.filed site.name ++ [⟨site, s.lookup? site.scope site.name⟩]) := by
    cases hfound : s.lookup? site.scope site.name with
    | none => rw [resolve_of_none hfound]
    | some id => rw [resolve_of_some hfound]
  rw [filed, hindex, Table.get?_set]
  by_cases hname : site.name = name <;> simp [hname, filed]

/-- A resolved reference is spelled as it was written. -/
theorem Consistent.nameOf_lookup? (h : s.Consistent references) (site : Site) :
    s.nameOf ⟨site, s.lookup? site.scope site.name⟩ = site.name := by
  unfold nameOf
  cases hfound : s.lookup? site.scope site.name with
  | none => rfl
  | some id =>
    obtain ⟨b, hb, hname, -⟩ := h.lookup?_some hfound
    simp [hb, hname]

theorem Consistent.resolve (h : s.Consistent references) (site : Site) :
    (s.resolve site).Consistent (references ++ [⟨site, s.lookup? site.scope site.name⟩]) where
  outer_lt := by simpa only [outer?_resolve] using h.outer_lt
  children := by simpa only [outer?_resolve, scopes_resolve] using h.children
  keys := by simpa only [scopes_resolve] using h.keys
  own_iff scope name id := by
    rw [own?_resolve, h.own_iff, getElem?_bindings_resolve]
    cases s.bindings[id]? with
    | none => simp
    | some b => by_cases hfound : s.lookup? site.scope site.name = some id <;> simp [hfound]
  within id b hb other hother := by
    rw [chain_resolve]
    rw [getElem?_bindings_resolve] at hb
    obtain ⟨old, hold, rfl⟩ := Option.map_eq_some_iff.mp hb
    by_cases hfound : s.lookup? site.scope site.name = some id
    · simp only [hfound, if_true, Binding.sites, List.mem_append, List.mem_singleton] at hother ⊢
      rcases hother with hin | hin | rfl
      · exact h.within id old hold other (List.mem_append_left _ hin)
      · exact h.within id old hold other (List.mem_append_right _ hin)
      · obtain ⟨c, hc, -, hmem⟩ := h.lookup?_some hfound
        rw [hold] at hc
        rwa [Option.some.inj hc]
    · simp only [hfound, if_false] at hother ⊢
      exact h.within id old hold other hother
  lookup ref href := by
    rw [lookup?_resolve, nameOf_resolve]
    rcases List.mem_append.mp href with href | href
    · exact h.lookup ref href
    · obtain rfl := List.mem_singleton.mp href
      rw [h.nameOf_lookup?]
  index name := by
    simp only [filed_resolve, nameOf_resolve, List.filter_append]
    apply (h.index name).append
    rw [List.filter_cons, h.nameOf_lookup?]
    by_cases hname : site.name = name <;> simp [hname]
  sites id b hb := by
    rw [getElem?_bindings_resolve] at hb
    obtain ⟨old, hold, rfl⟩ := Option.map_eq_some_iff.mp hb
    by_cases hfound : s.lookup? site.scope site.name = some id <;>
      simp [hfound, h.sites id old hold]

/-- The references at sites, each with the binding it refers to. -/
def refer (s : Store) (sites : List Site) : List Reference :=
  sites.map fun site ↦ ⟨site, s.lookup? site.scope site.name⟩

theorem refer_congr (sites : List Site)
    (h : ∀ a name, s'.lookup? a name = s.lookup? a name) : s'.refer sites = s.refer sites := by
  simp only [refer, h]

theorem lookup?_foldl_resolve (sites : List Site) (s : Store) (a : ScopeId) (name : String) :
    (sites.foldl Store.resolve s).lookup? a name = s.lookup? a name := by
  induction sites generalizing s with
  | nil => rfl
  | cons site rest ih => rw [List.foldl_cons, ih, lookup?_resolve]

theorem Consistent.foldl_resolve (h : s.Consistent references) (sites : List Site) :
    (sites.foldl Store.resolve s).Consistent (references ++ s.refer sites) := by
  induction sites generalizing s references with
  | nil => simpa [refer] using h
  | cons site rest ih =>
    have hrest := ih (h.resolve site)
    rw [refer_congr rest (lookup?_resolve s site)] at hrest
    simpa [refer] using hrest

end Store

namespace Fact

/-- A fact fits a store if the scopes it speaks of are open, and a declaration stands within the
scope that takes it. -/
def Fits (s : Store) : Fact → Prop
  | opened _ _ parent => ∀ outer, parent = some outer → outer < s.scopes.size
  | declared target _ site => target < s.scopes.size ∧ target ∈ s.chain site.scope
  | placed .. | referred .. => True

/-- Each fact of a list fits the store that the facts before it describe. -/
def Fit (s : Store) : List Fact → Prop
  | [] => True
  | fact :: rest => fact.Fits s ∧ Fit (s.learn fact) rest

/-- The sites at which facts refer to something. -/
def referredSites (facts : List Fact) : List Site :=
  facts.filterMap fun fact ↦ match fact with
    | .referred site => some site
    | _ => none

end Fact

namespace Store

variable {s : Store}

theorem Consistent.learn (h : s.Consistent []) {fact : Fact} (hfits : fact.Fits s) :
    (s.learn fact).Consistent [] := by
  cases fact with
  | opened type node parent => exact h.openScope type node hfits
  | placed node scope => exact h.congr rfl rfl rfl
  | declared target kind site => exact h.declare hfits.1 hfits.2 kind
  | referred site => exact h

theorem Consistent.foldl_learn (h : s.Consistent []) {facts : List Fact} (hfit : Fact.Fit s facts) :
    (facts.foldl Store.learn s).Consistent [] := by
  induction facts generalizing s with
  | nil => exact h
  | cons fact rest ih => exact ih (h.learn hfit.1) hfit.2

theorem ofFacts_eq (facts : List Fact) :
    ofFacts facts =
      (Fact.referredSites facts).foldl Store.resolve (facts.foldl Store.learn {}) := rfl

/-- The store that fitting facts describe is consistent. -/
theorem consistent_ofFacts {facts : List Fact} (hfit : Fact.Fit {} facts) :
    (ofFacts facts).Consistent ((ofFacts facts).refer (Fact.referredSites facts)) := by
  have hdeclared := consistent_empty.foldl_learn hfit
  have hresolved := hdeclared.foldl_resolve (Fact.referredSites facts)
  rw [List.nil_append] at hresolved
  rw [ofFacts_eq, refer_congr _ (lookup?_foldl_resolve (Fact.referredSites facts) _)]
  exact hresolved

end Store

end Relabel
