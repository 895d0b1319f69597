import Mathlib.Data.List.Nodup
import Relabel.Proofs.Scope.Renaming

/-!
# Renames in another order, and renames taken back

What a consistent store says is settled by the names of its bindings, up to the order of the entries
of its tables and of the references in its index. Two renames of different bindings can therefore be
made in either order, as far as the tests let both through, and the old name of a binding can be
given back to it. In both cases each test in the new order is traced back to a test that was passed:
a name that now stands in the way would have stood in the way before, or would have been captured.
-/

namespace Relabel

/-- Two tables that give the same value to every key have the same entries. -/
theorem Table.perm_entries {κ α : Type} [DecidableEq κ] {t t' : Table κ α} (h : t.keys.Nodup)
    (h' : t'.keys.Nodup) (hget : ∀ k, t.get? k = t'.get? k) : t.entries.Perm t'.entries := by
  have hmem {t : Table κ α} (h : t.keys.Nodup) (entry : κ × α) :
      entry ∈ t.entries ↔ t.get? entry.1 = some entry.2 := by
    refine ⟨get?_of_mem_entries h, fun hfound ↦ ?_⟩
    obtain ⟨found, hfind, hvalue⟩ := Option.map_eq_some_iff.mp hfound
    have hkey : found.1 = entry.1 := by simpa using List.find?_some hfind
    have hentry : found = entry := Prod.ext hkey hvalue
    exact hentry ▸ List.mem_of_find?_eq_some hfind
  rw [List.perm_ext_iff_of_nodup (List.Nodup.of_map _ h) (List.Nodup.of_map _ h')]
  intro entry
  rw [hmem h, hmem h', hget]

/-- A scope apart from its table. -/
def Scope.frame (scope : Scope) : ScopeType × Node × Option ScopeId × List ScopeId :=
  (scope.type, scope.node, scope.parent, scope.children)

/-- A binding apart from the mark that it was renamed. -/
def Binding.unmarked (b : Binding) : Binding :=
  { b with renamed := false }

namespace Store

/-- Two stores say the same, apart from which bindings were renamed: the entries of a table and the
references under a name may stand in another order. -/
structure Rearranged (a b : Store) : Prop where
  scopes : ∀ id : ScopeId, a.scopes[id]?.map Scope.frame = b.scopes[id]?.map Scope.frame
  tables : ∀ (id : ScopeId) (scope scope' : Scope), a.scopes[id]? = some scope →
    b.scopes[id]? = some scope' → scope.table.entries.Perm scope'.table.entries
  bindings : ∀ id : BindingId,
    a.bindings[id]?.map Binding.unmarked = b.bindings[id]?.map Binding.unmarked
  places : a.places = b.places
  owners : a.owners = b.owners
  index : ∀ name, (a.filed name).Perm (b.filed name)
  free : a.free = b.free

variable {s s' : Store} {references : List Reference} {i j : BindingId} {b c : Binding}
  {m n : String}

theorem nameOf_congr (hbindings : ∀ id : BindingId,
    s.bindings[id]?.map Binding.unmarked = s'.bindings[id]?.map Binding.unmarked)
    (ref : Reference) : s.nameOf ref = s'.nameOf ref := by
  unfold nameOf
  cases ref.binding with
  | none => rfl
  | some id =>
    have hnames := congrArg (Option.map Binding.name) (hbindings id)
    rw [Option.map_map, Option.map_map] at hnames
    change s.bindings[id]?.map Binding.name = s'.bindings[id]?.map Binding.name at hnames
    simp only [Option.bind_some]
    cases hb : s.bindings[id]? <;> cases hb' : s'.bindings[id]? <;> simp_all

/-- What a consistent store says follows from the scopes and the names of the bindings. -/
theorem Consistent.rearranged (h : s.Consistent references) (h' : s'.Consistent references)
    (hscopes : ∀ id : ScopeId, s.scopes[id]?.map Scope.frame = s'.scopes[id]?.map Scope.frame)
    (hbindings : ∀ id : BindingId,
      s.bindings[id]?.map Binding.unmarked = s'.bindings[id]?.map Binding.unmarked)
    (hplaces : s.places = s'.places) (howners : s.owners = s'.owners) (hfree : s.free = s'.free) :
    s.Rearranged s' where
  scopes := hscopes
  tables id scope scope' hscope hscope' := by
    apply Table.perm_entries (h.keys id scope hscope) (h'.keys id scope' hscope')
    intro name
    have hbinding (found : BindingId) : (∃ b, s.bindings[found]? = some b ∧ b.scope = id ∧
        b.name = name) ↔ ∃ b, s'.bindings[found]? = some b ∧ b.scope = id ∧ b.name = name := by
      have hsame := hbindings found
      constructor
      · rintro ⟨b, hb, hplace, hname⟩
        obtain ⟨b', hb', hunmarked⟩ :=
          Option.map_eq_some_iff.mp (hsame.symm.trans (congrArg _ hb))
        refine ⟨b', hb', ?_, ?_⟩
        · exact (congrArg Binding.scope hunmarked).trans hplace
        · exact (congrArg Binding.name hunmarked).trans hname
      · rintro ⟨b, hb, hplace, hname⟩
        obtain ⟨b', hb', hunmarked⟩ := Option.map_eq_some_iff.mp (hsame.trans (congrArg _ hb))
        refine ⟨b', hb', ?_, ?_⟩
        · exact (congrArg Binding.scope hunmarked).trans hplace
        · exact (congrArg Binding.name hunmarked).trans hname
    have hown : s.own? id name = s'.own? id name :=
      Option.ext fun found ↦ by rw [h.own_iff, h'.own_iff, hbinding]
    rwa [own?, hscope, own?, hscope'] at hown
  bindings := hbindings
  places := hplaces
  owners := howners
  index name := by
    refine (h.index name).trans (List.Perm.trans (List.Perm.of_eq ?_) (h'.index name).symm)
    simp only [nameOf_congr hbindings]
  free := hfree

theorem frame_rekey (s : Store) (i : BindingId) (b : Binding) (n : String) (id : ScopeId) :
    (s.rekey i b n).scopes[id]?.map Scope.frame = s.scopes[id]?.map Scope.frame := by
  rw [rekey, Array.getElem?_modify]
  split
  · rw [Option.map_map]
    rfl
  · rfl

/-- Of two scopes around a third one, one lies around the other. -/
theorem mem_chain_or_mem_chain {a x y : ScopeId} (hx : x ∈ s.chain a) (hy : y ∈ s.chain a) :
    x ∈ s.chain y ∨ y ∈ s.chain x := by
  rw [chain_eq_append hx, List.mem_append, mem_strictlyBetween_iff hx] at hy
  rcases hy with ⟨-, hbetween, -⟩ | hy
  · exact .inl hbetween
  · exact .inr hy

theorem strictlyBetween_rekey (s : Store) (i : BindingId) (b : Binding) (n : String)
    (inner outer : ScopeId) :
    (s.rekey i b n).strictlyBetween inner outer = s.strictlyBetween inner outer := by
  rw [strictlyBetween, strictlyBetween, chain_rekey]

/-- What hides a reference after another binding was renamed hid it before. -/
theorem hides_rekey_iff (hc : s.bindings[j]? = some c) (scope a : ScopeId)
    (found : Option BindingId) :
    (s.rekey j c m).Hides scope a found ↔ s.Hides scope a found := by
  simp only [Hides, chain_rekey]
  refine and_congr_right fun _ ↦ forall_congr' fun id ↦ ?_
  rw [getElem?_bindings_rekey]
  split
  · rename_i hid
    subst hid
    simp [hc]
  · rfl

namespace Consistent

variable (h : s.Consistent references)
include h

/-- Where a name leads to a binding, no scope on the way has a binding of that name. -/
theorem clear_of_lookup? (hb : s.bindings[i]? = some b) {a : ScopeId} (ha : b.scope ∈ s.chain a)
    (hfound : s.lookup? a b.name = some i) :
    ∀ scope ∈ s.strictlyBetween a b.scope, s.own? scope b.name = none := by
  rw [lookup?_eq_or ha] at hfound
  cases hinner : (s.strictlyBetween a b.scope).findSome? (s.own? · b.name) with
  | none => exact List.findSome?_eq_none_iff.mp hinner
  | some found =>
    rw [hinner, Option.some_or, Option.some.injEq] at hfound
    subst hfound
    obtain ⟨scope, hscope, hown⟩ := List.exists_of_findSome?_eq_some hinner
    obtain ⟨b', hb', rfl, -⟩ := (h.own_iff _ _ _).mp hown
    obtain rfl : b = b' := Option.some.inj (hb.symm.trans hb')
    exact absurd rfl ((mem_strictlyBetween_iff ha).mp hscope).2.2

/-- Where the name of a binding leads to something else, the binding does not hide it. -/
theorem not_hides_of_lookup? (hb : s.bindings[i]? = some b) {a : ScopeId}
    (hother : s.lookup? a b.name ≠ some i) : ¬ s.Hides b.scope a (s.lookup? a b.name) := by
  rintro ⟨ha, hhides⟩
  have hfound := lookup?_eq_or ha b.name
  rw [lookup?_of_own? (h.own hb)] at hfound
  cases hinner : (s.strictlyBetween a b.scope).findSome? (s.own? · b.name) with
  | none => exact hother (hfound.trans (by rw [hinner, Option.none_or]))
  | some found =>
    rw [hinner, Option.some_or] at hfound
    obtain ⟨scope, hscope, hown⟩ := List.exists_of_findSome?_eq_some hinner
    obtain ⟨c, hc, rfl, -⟩ := (h.own_iff _ _ _).mp hown
    exact hhides found c hfound hc ((mem_strictlyBetween_iff ha).mp hscope).2.1

/-! ## The other order -/

/-- The scope of a binding that takes a name does not stand on the way of a reference that was
renamed to it before: the reference would be captured. -/
theorem not_mem_strictlyBetween_of_accepted (hb : s.bindings[i]? = some b) (hij : i ≠ j)
    (hn : n ≠ b.name) (hfirst : s.refusal? i b n = none)
    (hsecond : (s.rekey i b n).refusal? j c n = none) {site : Site} (hsite : site ∈ b.references) :
    c.scope ∉ s.strictlyBetween site.scope b.scope := by
  intro hbetween
  have href := (h.mem_references_iff hb).mp hsite
  have hwithin := h.within i b hb site (List.mem_append_right _ hsite)
  obtain ⟨hinner, houter, hne⟩ := (mem_strictlyBetween_iff hwithin).mp hbetween
  have hfiled : (⟨site, some i⟩ : Reference) ∈ (s.rekey i b n).filed n := by
    rw [(h.rekey hb hn hfirst).mem_filed_iff, nameOf_rekey hb, if_pos rfl]
    exact ⟨href, rfl⟩
  obtain ⟨-, -, -, hcaptured⟩ := refusal?_eq_none_iff_tests.mp hsecond
  refine hcaptured _ hfiled ⟨by simpa using hij, ?_⟩
  rw [hides_rekey_iff hb]
  refine ⟨hinner, fun found other hfound hbinding hmem ↦ hne ?_⟩
  obtain rfl := Option.some.inj hfound
  obtain rfl : b = other := Option.some.inj (hb.symm.trans hbinding)
  exact mem_chain_antisymm houter hmem

/-- The scope of a binding that has taken a name does not hide the references of a binding that may
take the same name: it would stand on their way. -/
theorem not_hides_of_accepted (hb : s.bindings[i]? = some b) (hc : s.bindings[j]? = some c)
    (hsecond : (s.rekey i b n).refusal? j c n = none) {ref : Reference} (href : ref ∈ references)
    (hbinding : ref.binding = some j) : ¬ s.Hides b.scope ref.site.scope ref.binding := by
  rintro ⟨hmem, hhides⟩
  have hwithin := h.within_of_binding hc href hbinding
  have houter := hhides j c hbinding hc
  have hinner : c.scope ∈ s.chain b.scope :=
    (mem_chain_or_mem_chain hmem hwithin).resolve_left houter
  have hsite : ref.site ∈ c.sites := by
    apply List.mem_append_right
    rw [h.mem_references_iff hc, ← hbinding]
    exact href
  have hbetween : b.scope ∈ (s.rekey i b n).strictlyBetween ref.site.scope c.scope := by
    rw [strictlyBetween_rekey, mem_strictlyBetween_iff hwithin]
    exact ⟨hmem, hinner, fun heq ↦ houter (heq ▸ mem_chain_self s _)⟩
  obtain ⟨-, -, hclear, -⟩ := refusal?_eq_none_iff_tests.mp hsecond
  have hnone := hclear ref.site hsite b.scope hbetween
  rw [own?_rekey h hb, if_pos rfl, if_pos rfl] at hnone
  exact absurd hnone (by simp)

/-- A name that a binding takes, and may still take after another binding took one, it may take
after the other binding as well. What is declared further in than its scope could be shadowed by
the other binding, and is left out. -/
theorem refusal?_exchange (hb : s.bindings[i]? = some b) (hc : s.bindings[j]? = some c)
    (hij : i ≠ j) (hdirect : ∀ site ∈ b.declarations, site.scope = b.scope) (hn : n ≠ b.name)
    (hm : m ≠ c.name) (hfirst : s.refusal? i b n = none) (hother : s.refusal? j c m = none)
    (hsecond : (s.rekey i b n).refusal? j c m = none) :
    (s.rekey j c m).refusal? i b n = none := by
  obtain ⟨hvalid, hfree, hclear, hcaptured⟩ := refusal?_eq_none_iff_tests.mp hfirst
  obtain ⟨-, hfree', -, -⟩ := refusal?_eq_none_iff_tests.mp hsecond
  refine refusal?_eq_none_iff_tests.mpr ⟨hvalid, ?_, ?_, ?_⟩
  · intro found hfound
    rw [own?_rekey h hc] at hfound
    split at hfound
    · rename_i hscope
      split at hfound
      · rename_i hname
        have hours : (s.rekey i b n).own? c.scope m = some i := by
          rw [own?_rekey h hb, if_pos hscope.symm, if_pos hname.symm]
        exact absurd (hfree' i hours) hij
      · split at hfound
        · exact absurd hfound (by simp)
        · exact hfree found hfound
    · exact hfree found hfound
  · intro site hsite scope hscope
    rw [strictlyBetween_rekey] at hscope
    rw [own?_rekey h hc]
    split
    · rename_i hplace
      split
      · rename_i hname
        subst hplace hname
        rcases List.mem_append.mp hsite with hdeclared | hreferred
        · rw [hdirect site hdeclared, strictlyBetween, chain_eq] at hscope
          simp at hscope
        · exact absurd hscope
            (h.not_mem_strictlyBetween_of_accepted hb hij hn hfirst hsecond hreferred)
      · split
        · rfl
        · exact hclear site hsite scope hscope
    · exact hclear site hsite scope hscope
  · rintro ref href ⟨hbinding, hhides⟩
    rw [hides_rekey_iff hc] at hhides
    obtain ⟨hmem, hname⟩ := (h.rekey hc hm hother).mem_filed_iff.mp href
    rw [nameOf_rekey hc] at hname
    split at hname
    · rename_i htheirs
      subst hname
      exact h.not_hides_of_accepted hb hc hsecond hmem htheirs hhides
    · exact hcaptured ref (h.mem_filed_iff.mpr ⟨hmem, hname⟩) ⟨hbinding, hhides⟩

/-- The old name can be given back, if it could name a binding and no declaration stands inside a
scope that has a binding of that name. -/
theorem refusal?_undo (hb : s.bindings[i]? = some b)
    (hvalid : isIdentifier b.name = true ∧ isReserved b.name = false)
    (hclear : ∀ site ∈ b.declarations, ∀ scope ∈ s.strictlyBetween site.scope b.scope,
      s.own? scope b.name = none)
    (hn : n ≠ b.name) (haccepted : s.refusal? i b n = none) :
    (s.rekey i b n).refusal? i { b with name := n, renamed := true } b.name = none := by
  have hafter := h.rekey hb hn haccepted
  have hinside {a scope : ScopeId} (ha : b.scope ∈ s.chain a)
      (hscope : scope ∈ s.strictlyBetween a b.scope) :
      (s.rekey i b n).own? scope b.name = s.own? scope b.name :=
    own?_rekey_of_ne h hb ((mem_strictlyBetween_iff ha).mp hscope).2.2 b.name
  refine refusal?_eq_none_iff_tests.mpr ⟨hvalid, ?_, ?_, ?_⟩
  · intro found hfound
    rw [own?_rekey h hb, if_pos rfl, if_neg (Ne.symm hn), if_pos rfl] at hfound
    exact absurd hfound (by simp)
  · intro site hsite scope hscope
    rw [strictlyBetween_rekey] at hscope
    have hwithin := h.within i b hb site hsite
    rw [hinside hwithin hscope]
    rcases List.mem_append.mp hsite with hdeclared | hreferred
    · exact hclear site hdeclared scope hscope
    · have href := (h.mem_references_iff hb).mp hreferred
      have hfound := h.lookup _ href
      rw [nameOf_eq_of_binding hb rfl] at hfound
      exact h.clear_of_lookup? hb hwithin hfound scope hscope
  · rintro ref href ⟨hbinding, hhides⟩
    obtain ⟨hmem, hname⟩ := hafter.mem_filed_iff.mp href
    rw [nameOf_rekey hb, if_neg hbinding] at hname
    rw [hides_rekey_iff hb] at hhides
    have hfound := h.lookup ref hmem
    rw [hname] at hfound
    rw [← hfound] at hbinding hhides
    exact h.not_hides_of_lookup? hb hbinding hhides

end Consistent

end Store

end Relabel
