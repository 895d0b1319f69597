import Relabel.Proofs.Scope.Consistency

/-!
# Renaming in a consistent store

A binding that takes a new name changes one table, so that a look-up can change in two ways only: it
no longer finds the old name, or the new name now hides what lies further out. The three tests that
a new name has to pass are compared with these two ways. They accept a name exactly if no reference
looks up anything else afterwards, and an accepted name leaves the store consistent.
-/

namespace Relabel.Store

variable {s : Store} {references : List Reference} {id : BindingId} {b : Binding} {name : String}

theorem chain_rekey (s : Store) (id : BindingId) (b : Binding) (name : String) (a : ScopeId) :
    (s.rekey id b name).chain a = s.chain a :=
  chain_modify (g := fun table ↦ (table.erase b.name).set name id) rfl a

theorem outer?_rekey (s : Store) (id : BindingId) (b : Binding) (name : String) (a : ScopeId) :
    (s.rekey id b name).outer? a = s.outer? a :=
  outer?_modify (g := fun table ↦ (table.erase b.name).set name id) rfl a

theorem own?_rekey (h : s.Consistent references) (hb : s.bindings[id]? = some b) (scope : ScopeId)
    (n : String) :
    (s.rekey id b name).own? scope n =
      if scope = b.scope then
        if n = name then some id else if n = b.name then none else s.own? scope n
      else s.own? scope n := by
  have hscopes : (s.rekey id b name).scopes = s.scopes.modify b.scope fun scope ↦
      { scope with table := (scope.table.erase b.name).set name id } := rfl
  rw [own?_modify (g := fun table ↦ (table.erase b.name).set name id) hscopes]
  by_cases hscope : b.scope = scope
  · obtain ⟨old, hold, -⟩ := Option.bind_eq_some_iff.mp (h.own hb)
    rw [if_pos hscope, if_pos hscope.symm, ← hscope, own?, hold]
    simp only [Option.bind_some, Table.get?_set, Table.get?_erase, eq_comm]
  · rw [if_neg hscope, if_neg (Ne.symm hscope)]

theorem own?_rekey_of_ne (h : s.Consistent references) (hb : s.bindings[id]? = some b)
    {scope : ScopeId} (hscope : scope ≠ b.scope) (n : String) :
    (s.rekey id b name).own? scope n = s.own? scope n := by
  rw [own?_rekey h hb, if_neg hscope]

/-- Outside the scope of the binding nothing changes. -/
theorem lookup?_rekey_of_not_mem (h : s.Consistent references) (hb : s.bindings[id]? = some b)
    {a : ScopeId} (ha : b.scope ∉ s.chain a) (n : String) :
    (s.rekey id b name).lookup? a n = s.lookup? a n := by
  apply lookup?_congr (chain_rekey s id b name a)
  intro scope hscope
  exact own?_rekey_of_ne h hb (fun heq ↦ ha (heq ▸ hscope)) n

/-- Within it, the scopes inside are asked first. -/
theorem lookup?_rekey_of_mem (h : s.Consistent references) (hb : s.bindings[id]? = some b)
    {a : ScopeId} (ha : b.scope ∈ s.chain a) (n : String) :
    (s.rekey id b name).lookup? a n =
      ((s.strictlyBetween a b.scope).findSome? (s.own? · n)).or
        ((s.rekey id b name).lookup? b.scope n) := by
  have ha' : b.scope ∈ (s.rekey id b name).chain a := by rwa [chain_rekey]
  have hbetween : (s.rekey id b name).strictlyBetween a b.scope = s.strictlyBetween a b.scope := by
    rw [strictlyBetween, strictlyBetween, chain_rekey]
  rw [lookup?_eq_or ha', hbetween, findSome?_eq_of_forall]
  intro scope hscope
  exact own?_rekey_of_ne h hb ((mem_strictlyBetween_iff ha).mp hscope).2.2 n

theorem lookup?_of_own? {a : ScopeId} {n : String} {found : BindingId}
    (h : s.own? a n = some found) : s.lookup? a n = some found := by
  rw [lookup?, chain_eq, List.findSome?_cons, h]

theorem lookup?_rekey_self (h : s.Consistent references) (hb : s.bindings[id]? = some b) :
    (s.rekey id b name).lookup? b.scope name = some id := by
  apply lookup?_of_own?
  rw [own?_rekey h hb, if_pos rfl, if_pos rfl]

/-- A name other than the new one keeps what it refers to, unless that was the binding. -/
theorem lookup?_rekey_of_ne (h : s.Consistent references) (hb : s.bindings[id]? = some b)
    {a : ScopeId} {n : String} (hn : n ≠ name) (hfound : s.lookup? a n ≠ some id) :
    (s.rekey id b name).lookup? a n = s.lookup? a n := by
  by_cases hold : n = b.name
  · subst hold
    by_cases ha : b.scope ∈ s.chain a
    · have hbefore := lookup?_eq_or ha b.name
      rw [lookup?_of_own? (h.own hb)] at hbefore
      rw [lookup?_rekey_of_mem h hb ha]
      cases hinner : (s.strictlyBetween a b.scope).findSome? (s.own? · b.name) with
      | none =>
        rw [hinner] at hbefore
        exact absurd hbefore hfound
      | some found =>
        rw [hinner] at hbefore
        rw [hbefore]
        rfl
    · exact lookup?_rekey_of_not_mem h hb ha _
  · apply lookup?_congr (chain_rekey s id b name a)
    intro scope _
    rw [own?_rekey h hb, if_neg hn, if_neg hold, ite_self]

/-- A scope hides what a look-up from `a` finds, if it lies around `a` and further in. -/
def Hides (s : Store) (scope a : ScopeId) (found : Option BindingId) : Prop :=
  scope ∈ s.chain a ∧
    ∀ c other, found = some c → s.bindings[c]? = some other → scope ∉ s.chain other.scope

/-- The new name keeps what it refers to, unless the scope of the binding hides it; then it refers
to the binding. -/
theorem lookup?_rekey_name (h : s.Consistent references) (hb : s.bindings[id]? = some b)
    (hvacant : s.own? b.scope name = none) (a : ScopeId) :
    (¬ s.Hides b.scope a (s.lookup? a name) →
        (s.rekey id b name).lookup? a name = s.lookup? a name) ∧
      (s.Hides b.scope a (s.lookup? a name) → (s.rekey id b name).lookup? a name = some id) := by
  by_cases ha : b.scope ∈ s.chain a
  · have hbefore := lookup?_eq_or ha name
    have hafter : (s.rekey id b name).lookup? a name = _ := lookup?_rekey_of_mem h hb ha name
    rw [lookup?_rekey_self h hb] at hafter
    cases hinner : (s.strictlyBetween a b.scope).findSome? (s.own? · name) with
    | some found =>
      rw [hinner, Option.some_or] at hbefore hafter
      refine ⟨fun _ ↦ hafter.trans hbefore.symm, fun hhides ↦ ?_⟩
      obtain ⟨scope, hscope, hown⟩ := List.exists_of_findSome?_eq_some hinner
      obtain ⟨other, hother, rfl, -⟩ := (h.own_iff _ _ _).mp hown
      exact absurd ((mem_strictlyBetween_iff ha).mp hscope).2.1
        (hhides.2 found other hbefore hother)
    | none =>
      rw [hinner, Option.none_or] at hbefore hafter
      refine ⟨fun hhides ↦ absurd ⟨ha, ?_⟩ hhides, fun _ ↦ hafter⟩
      intro c other hc hother hwithin
      obtain ⟨other', hother', hname, hmem⟩ := h.lookup?_some (hbefore.symm.trans hc)
      obtain rfl : other = other' := Option.some.inj (hother.symm.trans hother')
      have hscope := mem_chain_antisymm hwithin hmem
      have hown := h.own hother
      rw [hname, hscope, hvacant] at hown
      exact absurd hown (by simp)
  · exact ⟨fun _ ↦ lookup?_rekey_of_not_mem h hb ha name, fun hhides ↦ absurd hhides.1 ha⟩

theorem isCaptured_iff {ref : Reference} :
    s.isCaptured id b ref = true ↔
      ref.binding ≠ some id ∧ s.Hides b.scope ref.site.scope ref.binding := by
  unfold isCaptured Hides
  rw [Bool.and_eq_true, Bool.and_eq_true, isWithin_iff, decide_eq_true_eq, and_assoc]
  refine and_congr_right fun _ ↦ and_congr_right fun _ ↦ ?_
  cases ref.binding with
  | none => simp
  | some c =>
    cases hc : s.bindings[c]? with
    | none =>
      simp only [Option.bind_some, hc, true_iff]
      rintro d found hd hfound
      obtain rfl := Option.some.inj hd
      rw [hc] at hfound
      exact absurd hfound (by simp)
    | some other =>
      simp only [Option.bind_some, hc, Bool.not_eq_true', ← Bool.not_eq_true, isWithin_iff]
      constructor
      · rintro hout d found hd hfound
        obtain rfl := Option.some.inj hd
        rw [hc] at hfound
        rwa [← Option.some.inj hfound]
      · exact fun hout ↦ hout c other rfl hc

theorem shadow?_eq_none_iff {site : Site} :
    s.shadow? b name site = none ↔
      ∀ scope ∈ s.strictlyBetween site.scope b.scope, s.own? scope name = none := by
  rw [shadow?, between_eq_strictlyBetween, List.find?_eq_none]
  simp

/-- A name passes the tests if it can name a binding, no other binding of the scope has it, no scope
between a site and the binding has it, and no reference of that name would be captured. -/
theorem refusal?_eq_none_iff_tests :
    s.refusal? id b name = none ↔
      (isIdentifier name = true ∧ isReserved name = false) ∧
        (∀ c, s.own? b.scope name = some c → c = id) ∧
        (∀ site ∈ b.sites, ∀ scope ∈ s.strictlyBetween site.scope b.scope,
          s.own? scope name = none) ∧
        ∀ ref ∈ s.filed name, ¬ (ref.binding ≠ some id ∧
          s.Hides b.scope ref.site.scope ref.binding) := by
  have hsites : ((b.declarations.map (true, ·) ++ b.references.map (false, ·)).findSome?
        fun entry : Bool × Site ↦ (s.shadow? b name entry.2).map
          (Refusal.shadowed entry.1 entry.2.line)) = none ↔
      ∀ site ∈ b.sites, ∀ scope ∈ s.strictlyBetween site.scope b.scope,
        s.own? scope name = none := by
    simp only [List.findSome?_eq_none_iff, Option.map_eq_none_iff, shadow?_eq_none_iff,
      List.mem_append, List.mem_map, Binding.sites]
    constructor
    · rintro hentries site (hsite | hsite)
      · exact hentries (true, site) (.inl ⟨site, hsite, rfl⟩)
      · exact hentries (false, site) (.inr ⟨site, hsite, rfl⟩)
    · rintro hall _ (⟨site, hsite, rfl⟩ | ⟨site, hsite, rfl⟩)
      · exact hall site (.inl hsite)
      · exact hall site (.inr hsite)
  have hcaptured : (((s.index.get? name).getD []).find? (s.isCaptured id b)).map
        (fun ref ↦ Refusal.captured name ref.site.line) = none ↔
      ∀ ref ∈ s.filed name, ¬ (ref.binding ≠ some id ∧
        s.Hides b.scope ref.site.scope ref.binding) := by
    simp only [Option.map_eq_none_iff, List.find?_eq_none, isCaptured_iff, filed]
  have htaken : (s.own? b.scope name).any (· ≠ id) = true ↔
      ¬ ∀ c, s.own? b.scope name = some c → c = id := by
    cases s.own? b.scope name <;> simp
  have hvalid : (!isIdentifier name || isReserved name) = true ↔
      ¬ (isIdentifier name = true ∧ isReserved name = false) := by
    cases isIdentifier name <;> cases isReserved name <;> simp
  unfold refusal?
  by_cases hbad : (!isIdentifier name || isReserved name) = true
  · rw [if_pos hbad]
    exact ⟨fun hnone ↦ absurd hnone (by simp), fun htests ↦ absurd htests.1 (hvalid.mp hbad)⟩
  · rw [if_neg hbad]
    by_cases hother : (s.own? b.scope name).any (· ≠ id) = true
    · rw [if_pos hother]
      exact ⟨fun hnone ↦ absurd hnone (by simp), fun htests ↦ absurd htests.2.1 (htaken.mp hother)⟩
    · rw [if_neg hother, Option.or_eq_none_iff, hsites, hcaptured]
      rw [hvalid, not_not] at hbad
      rw [htaken, not_not] at hother
      exact ⟨fun hrest ↦ ⟨hbad, hother, hrest⟩, fun htests ↦ htests.2.2⟩

/-! ## The tests are exact -/

theorem getElem?_bindings_rekey (s : Store) (id : BindingId) (b : Binding) (name : String)
    (i : BindingId) :
    (s.rekey id b name).bindings[i]? =
      if id = i then s.bindings[i]?.map fun b ↦ { b with name, renamed := true }
      else s.bindings[i]? :=
  Array.getElem?_modify

theorem nameOf_rekey (hb : s.bindings[id]? = some b) (ref : Reference) :
    (s.rekey id b name).nameOf ref = if ref.binding = some id then name else s.nameOf ref := by
  unfold nameOf
  cases ref.binding with
  | none => simp
  | some c =>
    simp only [Option.bind_some, getElem?_bindings_rekey, Option.some.injEq]
    by_cases hc : id = c
    · subst hc
      simp [hb]
    · simp [hc, Ne.symm hc]

theorem nameOf_eq_of_binding (hb : s.bindings[id]? = some b) {ref : Reference}
    (href : ref.binding = some id) : s.nameOf ref = b.name := by
  simp [nameOf, href, hb]

namespace Consistent

theorem vacant (h : s.Consistent references) (hb : s.bindings[id]? = some b) (hne : name ≠ b.name)
    (hfree : ∀ c, s.own? b.scope name = some c → c = id) : s.own? b.scope name = none := by
  by_contra htaken
  obtain ⟨c, hc⟩ := Option.ne_none_iff_exists'.mp htaken
  obtain rfl := hfree c hc
  obtain ⟨b', hb', -, hname⟩ := (h.own_iff _ _ _).mp hc
  rw [hb] at hb'
  rw [← Option.some.inj hb'] at hname
  exact hne hname.symm

theorem mem_references_iff (h : s.Consistent references) (hb : s.bindings[id]? = some b)
    {site : Site} : site ∈ b.references ↔ ⟨site, some id⟩ ∈ references := by
  rw [h.sites id b hb]
  simp only [List.mem_map, List.mem_filter, decide_eq_true_eq]
  constructor
  · rintro ⟨⟨site', binding⟩, ⟨hmem, rfl⟩, rfl⟩
    exact hmem
  · exact fun hmem ↦ ⟨⟨site, some id⟩, ⟨hmem, rfl⟩, rfl⟩

theorem mem_filed_iff (h : s.Consistent references) {ref : Reference} :
    ref ∈ s.filed name ↔ ref ∈ references ∧ s.nameOf ref = name := by
  rw [(h.index name).mem_iff, List.mem_filter, decide_eq_true_eq]

/-- From a site of the binding, with nothing of the new name on the way, the new name leads to the
binding. -/
theorem lookup?_rekey_clear (h : s.Consistent references) (hb : s.bindings[id]? = some b)
    {a : ScopeId} (ha : b.scope ∈ s.chain a)
    (hclear : ∀ scope ∈ s.strictlyBetween a b.scope, s.own? scope name = none) :
    (s.rekey id b name).lookup? a name = some id := by
  rw [lookup?_rekey_of_mem h hb ha, List.findSome?_eq_none_iff.mpr hclear, Option.none_or,
    lookup?_rekey_self h hb]

theorem clear_of_lookup?_rekey (h : s.Consistent references) (hb : s.bindings[id]? = some b)
    {a : ScopeId} (ha : b.scope ∈ s.chain a)
    (hfound : (s.rekey id b name).lookup? a name = some id) :
    ∀ scope ∈ s.strictlyBetween a b.scope, s.own? scope name = none := by
  rw [lookup?_rekey_of_mem h hb ha] at hfound
  cases hinner : (s.strictlyBetween a b.scope).findSome? (s.own? · name) with
  | none => exact List.findSome?_eq_none_iff.mp hinner
  | some c =>
    rw [hinner, Option.some_or] at hfound
    obtain rfl := Option.some.inj hfound
    obtain ⟨scope, hscope, hown⟩ := List.exists_of_findSome?_eq_some hinner
    obtain ⟨b', hb', rfl, -⟩ := (h.own_iff _ _ _).mp hown
    rw [hb] at hb'
    rw [← Option.some.inj hb'] at hscope
    exact absurd rfl ((mem_strictlyBetween_iff ha).mp hscope).2.2

theorem within_of_binding (h : s.Consistent references) (hb : s.bindings[id]? = some b)
    {ref : Reference} (href : ref ∈ references) (hbinding : ref.binding = some id) :
    b.scope ∈ s.chain ref.site.scope := by
  apply h.within id b hb
  apply List.mem_append_right
  rw [h.mem_references_iff hb, ← hbinding]
  exact href

/-- A reference of another binding, or of none, keeps what it refers to unless it is captured. -/
theorem lookup?_rekey_other (h : s.Consistent references) (hb : s.bindings[id]? = some b)
    (hvacant : s.own? b.scope name = none) {ref : Reference} (href : ref ∈ references)
    (hother : ref.binding ≠ some id) :
    (s.rekey id b name).lookup? ref.site.scope (s.nameOf ref) = ref.binding ↔
      ¬ (s.nameOf ref = name ∧ s.Hides b.scope ref.site.scope ref.binding) := by
  have hbefore := h.lookup ref href
  by_cases hname : s.nameOf ref = name
  · have hafter := lookup?_rekey_name h hb hvacant ref.site.scope
    rw [hname] at hbefore
    rw [hbefore] at hafter
    rw [hname]
    constructor
    · rintro hkept ⟨-, hhides⟩
      exact hother (hkept.symm.trans (hafter.2 hhides))
    · exact fun hnot ↦ hafter.1 fun hhides ↦ hnot ⟨rfl, hhides⟩
  · have hkept := lookup?_rekey_of_ne h hb hname (by rwa [hbefore])
    simp [hkept, hbefore, hname]

/-- The tests accept a name exactly if the plain substitution finds no other binding of that name in
the scope, changes the look-up of no reference, and leaves no declaration shadowed. -/
theorem refusal?_eq_none_iff (h : s.Consistent references) (hb : s.bindings[id]? = some b)
    (hne : name ≠ b.name) (hvalid : isIdentifier name = true ∧ isReserved name = false) :
    s.refusal? id b name = none ↔
      (∀ c, s.own? b.scope name = some c → c = id) ∧
        (∀ ref ∈ references, (s.rekey id b name).lookup? ref.site.scope
          ((s.rekey id b name).nameOf ref) = s.lookup? ref.site.scope (s.nameOf ref)) ∧
        ∀ site ∈ b.declarations, ∀ scope ∈ s.strictlyBetween site.scope b.scope,
          s.own? scope name = none := by
  rw [refusal?_eq_none_iff_tests]
  constructor
  · rintro ⟨-, hfree, hclear, hcaptured⟩
    refine ⟨hfree, fun ref href ↦ ?_, fun site hsite ↦ hclear site (List.mem_append_left _ hsite)⟩
    rw [nameOf_rekey hb, h.lookup ref href]
    by_cases hbinding : ref.binding = some id
    · rw [if_pos hbinding, hbinding]
      apply h.lookup?_rekey_clear hb (h.within_of_binding hb href hbinding)
      apply hclear
      apply List.mem_append_right
      rw [h.mem_references_iff hb, ← hbinding]
      exact href
    · rw [if_neg hbinding, h.lookup?_rekey_other hb (h.vacant hb hne hfree) href hbinding]
      rintro ⟨hname, hhides⟩
      exact hcaptured ref (h.mem_filed_iff.mpr ⟨href, hname⟩) ⟨hbinding, hhides⟩
  · rintro ⟨hfree, hkept, hdeclarations⟩
    refine ⟨hvalid, hfree, fun site hsite ↦ ?_, fun ref href hcaptured ↦ ?_⟩
    · rcases List.mem_append.mp hsite with hsite | hsite
      · exact hdeclarations site hsite
      · have href := (h.mem_references_iff hb).mp hsite
        have hsame := hkept _ href
        rw [nameOf_rekey hb, if_pos rfl, h.lookup _ href] at hsame
        exact h.clear_of_lookup?_rekey hb (h.within_of_binding hb href rfl) hsame
    · obtain ⟨href, hname⟩ := h.mem_filed_iff.mp href
      have hsame := hkept ref href
      rw [nameOf_rekey hb, if_neg hcaptured.1, h.lookup ref href,
        h.lookup?_rekey_other hb (h.vacant hb hne hfree) href hcaptured.1] at hsame
      exact hsame ⟨hname, hcaptured.2⟩

end Consistent

theorem filed_rekey (s : Store) (id : BindingId) {b : Binding} {name : String}
    (hne : name ≠ b.name) (n : String) :
    (s.rekey id b name).filed n =
      if n = name then s.filed name ++ b.references.map fun site ↦ ⟨site, some id⟩
      else if n = b.name then (s.filed b.name).filter fun ref ↦ ref.binding ≠ some id
      else s.filed n := by
  let remaining := (s.filed b.name).filter fun ref ↦ ref.binding ≠ some id
  let index := if remaining.isEmpty then s.index.erase b.name else s.index.set b.name remaining
  have hindex (m : String) :
      (index.get? m).getD [] = if b.name = m then remaining else s.filed m := by
    by_cases hempty : remaining.isEmpty = true
    · simp only [index, hempty, if_true, Table.get?_erase]
      by_cases hm : b.name = m
      · simpa [hm] using (List.isEmpty_iff.mp hempty).symm
      · simp [hm, filed]
    · simp only [index, hempty, Bool.false_eq_true, if_false, Table.get?_set]
      by_cases hm : b.name = m <;> simp [hm, filed]
  have hnew : (s.rekey id b name).index = index.set name
      ((index.get? name).getD [] ++ b.references.map fun site ↦ ⟨site, some id⟩) := rfl
  rw [filed, hnew, Table.get?_set]
  by_cases hn : name = n
  · subst hn
    rw [if_pos rfl, if_pos rfl, Option.getD_some, hindex, if_neg (Ne.symm hne)]
  · rw [if_neg hn, if_neg (Ne.symm hn), hindex]
    by_cases hold : b.name = n
    · rw [if_pos hold, if_pos hold.symm]
    · rw [if_neg hold, if_neg (Ne.symm hold)]

/-- The references that carry the new name are those that carried it before and those of the
binding. -/
theorem Consistent.index_rekey (h : s.Consistent references) (hb : s.bindings[id]? = some b)
    (hne : name ≠ b.name) (n : String) :
    ((s.rekey id b name).filed n).Perm
      (references.filter fun ref ↦ (s.rekey id b name).nameOf ref = n) := by
  rw [filed_rekey s id hne]
  simp only [nameOf_rekey hb]
  by_cases hn : n = name
  · subst hn
    have hours : (b.references.map fun site ↦ (⟨site, some id⟩ : Reference)) =
        references.filter fun ref ↦ ref.binding = some id := by
      rw [h.sites id b hb, List.map_map]
      refine (List.map_congr_left fun ref href ↦ ?_).trans (List.map_id _)
      obtain ⟨-, hbinding⟩ := List.mem_filter.mp href
      rcases ref with ⟨site, binding⟩
      simp only [decide_eq_true_eq] at hbinding
      rw [hbinding]
      rfl
    -- The index puts our references behind the others, wherever they stand in the program.
    have hsplit := List.filter_append_perm (fun ref : Reference ↦ ref.binding ≠ some id)
      (references.filter fun ref ↦ (if ref.binding = some id then n else s.nameOf ref) = n)
    rw [if_pos rfl, hours]
    refine ((h.index n).append (List.Perm.refl _)).trans ?_
    refine List.Perm.trans (List.Perm.of_eq ?_) hsplit
    rw [List.filter_filter, List.filter_filter]
    congr 1
    · apply List.filter_congr
      intro ref _
      by_cases hbinding : ref.binding = some id
      · simp [hbinding, nameOf_eq_of_binding hb hbinding, Ne.symm hne]
      · simp [hbinding]
    · apply List.filter_congr
      intro ref _
      by_cases hbinding : ref.binding = some id <;> simp [hbinding]
  · rw [if_neg hn]
    by_cases hold : n = b.name
    · subst hold
      rw [if_pos rfl]
      refine ((h.index b.name).filter _).trans (List.Perm.of_eq ?_)
      rw [List.filter_filter]
      apply List.filter_congr
      intro ref _
      by_cases hbinding : ref.binding = some id <;> simp [hbinding, hne]
    · rw [if_neg hold]
      refine (h.index n).trans (List.Perm.of_eq ?_)
      apply List.filter_congr
      intro ref _
      by_cases hbinding : ref.binding = some id
      · simp [hbinding, nameOf_eq_of_binding hb hbinding, Ne.symm hn, Ne.symm hold]
      · simp [hbinding]

theorem Consistent.own_iff_rekey (h : s.Consistent references) (hb : s.bindings[id]? = some b)
    (hne : name ≠ b.name) (hvacant : s.own? b.scope name = none) (scope : ScopeId) (n : String)
    (i : BindingId) :
    (s.rekey id b name).own? scope n = some i ↔
      ∃ c, (s.rekey id b name).bindings[i]? = some c ∧ c.scope = scope ∧ c.name = n := by
  rw [own?_rekey h hb, getElem?_bindings_rekey]
  by_cases hi : id = i
  · subst hi
    simp only [hb, if_true, Option.map_some, Option.some.injEq, exists_eq_left']
    by_cases hscope : scope = b.scope
    · subst hscope
      by_cases hn : n = name
      · simp [hn]
      · by_cases hold : n = b.name
        · simp [hold, Ne.symm hne, hne]
        · rw [if_pos rfl, if_neg hn, if_neg hold, h.own_iff]
          simp [hb, Ne.symm hn, Ne.symm hold]
    · rw [if_neg hscope, h.own_iff]
      simp [hb, Ne.symm hscope]
  · rw [if_neg hi]
    by_cases hscope : scope = b.scope
    · subst hscope
      by_cases hn : n = name
      · subst hn
        simp only [if_true, Option.some.injEq, hi, false_iff]
        rw [← h.own_iff, hvacant]
        simp
      · by_cases hold : n = b.name
        · subst hold
          rw [if_pos rfl, if_neg hn, if_pos rfl, ← h.own_iff, h.own hb]
          simp [hi]
        · rw [if_pos rfl, if_neg hn, if_neg hold, h.own_iff]
    · rw [if_neg hscope, h.own_iff]

/-- A name that passes the tests leaves the store consistent. -/
theorem Consistent.rekey (h : s.Consistent references) (hb : s.bindings[id]? = some b)
    (hne : name ≠ b.name) (haccepted : s.refusal? id b name = none) :
    (s.rekey id b name).Consistent references := by
  obtain ⟨hvalid, hfree, -, -⟩ := refusal?_eq_none_iff_tests.mp haccepted
  obtain ⟨-, hkept, -⟩ := (h.refusal?_eq_none_iff hb hne hvalid).mp haccepted
  have hscope (i : ScopeId) (scope : Scope) (hi : (s.rekey id b name).scopes[i]? = some scope) :
      ∃ old : Scope, s.scopes[i]? = some old ∧ scope.children = old.children ∧
        (old.table.keys.Nodup → scope.table.keys.Nodup) := by
    change (s.scopes.modify _ _)[i]? = some scope at hi
    rw [Array.getElem?_modify] at hi
    split at hi
    · obtain ⟨old, hold, rfl⟩ := Option.map_eq_some_iff.mp hi
      exact ⟨old, hold, rfl, fun hkeys ↦
        Table.nodup_keys_set (Table.nodup_keys_erase hkeys _) _ _⟩
    · exact ⟨scope, hi, rfl, fun hkeys ↦ hkeys⟩
  have hbinding (i : BindingId) (c : Binding) (hc : (s.rekey id b name).bindings[i]? = some c) :
      ∃ old : Binding, s.bindings[i]? = some old ∧ c.scope = old.scope ∧ c.sites = old.sites ∧
        c.references = old.references := by
    rw [getElem?_bindings_rekey] at hc
    split at hc
    · obtain ⟨old, hold, rfl⟩ := Option.map_eq_some_iff.mp hc
      exact ⟨old, hold, rfl, rfl, rfl⟩
    · exact ⟨c, hc, rfl, rfl, rfl⟩
  constructor
  · simpa only [outer?_rekey] using h.outer_lt
  · intro i scope hi
    obtain ⟨old, hold, hchildren, -⟩ := hscope i scope hi
    simp only [hchildren, outer?_rekey]
    exact h.children i old hold
  · intro i scope hi
    obtain ⟨old, hold, -, hkeys⟩ := hscope i scope hi
    exact hkeys (h.keys i old hold)
  · exact h.own_iff_rekey hb hne (h.vacant hb hne hfree)
  · intro i c hc site hsite
    obtain ⟨old, hold, hscope, hsites, -⟩ := hbinding i c hc
    rw [chain_rekey, hscope]
    exact h.within i old hold site (hsites ▸ hsite)
  · intro ref href
    rw [hkept ref href, h.lookup ref href]
  · exact h.index_rekey hb hne
  · intro i c hc
    obtain ⟨old, hold, -, -, hrefs⟩ := hbinding i c hc
    rw [hrefs, h.sites i old hold]

end Relabel.Store
