import Mathlib.Data.List.Infix
import Relabel.Scope.Rename

/-!
# Chains of scopes

The chain of a scope leads outward to the scope of the program, and its numbers go down. If a scope
lies within another one, the chain of the outer scope ends the chain of the inner one; what stands
before it are the scopes strictly between. A name is looked up among these first.
-/

namespace Relabel.Store

variable {s s' : Store} {a b c : ScopeId} {name : String}

/-- The scope around a scope. -/
def outer? (s : Store) (id : ScopeId) : Option ScopeId :=
  s.scopes[id]?.bind (·.parent)

theorem chain_eq (s : Store) (id : ScopeId) :
    s.chain id = id :: match s.outer? id with
      | some outer => if outer < id then s.chain outer else []
      | none => [] := by
  rw [chain, outer?]
  cases s.scopes[id]?.bind (·.parent) with
  | none => rfl
  | some outer =>
    simp only
    split <;> rfl

theorem mem_chain_self (s : Store) (id : ScopeId) : id ∈ s.chain id := by
  rw [chain_eq]
  exact List.mem_cons_self

theorem isWithin_iff : s.isWithin a b = true ↔ b ∈ s.chain a := by
  simp [isWithin]

/-- The step outward: whatever lies around a scope is the scope itself or lies around its parent. -/
theorem mem_chain_iff :
    b ∈ s.chain a ↔ b = a ∨ ∃ outer, s.outer? a = some outer ∧ outer < a ∧ b ∈ s.chain outer := by
  rw [chain_eq, List.mem_cons]
  cases s.outer? a with
  | none => simp
  | some outer => by_cases hlt : outer < a <;> simp [hlt]

theorem le_of_mem_chain (h : b ∈ s.chain a) : b ≤ a := by
  induction a using Nat.strongRecOn with
  | ind a ih =>
    obtain rfl | ⟨outer, -, hlt, hmem⟩ := mem_chain_iff.mp h
    · exact Nat.le_refl _
    · exact (ih outer hlt hmem).trans hlt.le

theorem mem_chain_antisymm (hab : b ∈ s.chain a) (hba : a ∈ s.chain b) : a = b :=
  Nat.le_antisymm (le_of_mem_chain hba) (le_of_mem_chain hab)

/-- The scopes from one scope outward up to another one, which is left out. -/
def strictlyBetween (s : Store) (inner outer : ScopeId) : List ScopeId :=
  (s.chain inner).takeWhile (· ≠ outer)

theorem between_eq_strictlyBetween (s : Store) (site : Site) (scope : ScopeId) :
    s.between site scope = s.strictlyBetween site.scope scope := rfl

theorem chain_eq_append (h : b ∈ s.chain a) :
    s.chain a = s.strictlyBetween a b ++ s.chain b := by
  unfold strictlyBetween
  induction a using Nat.strongRecOn with
  | ind a ih =>
    by_cases hab : a = b
    · subst hab
      rw [chain_eq]
      simp
    · obtain rfl | ⟨outer, houter, hlt, hmem⟩ := mem_chain_iff.mp h
      · exact absurd rfl hab
      · have hrest := ih outer hlt hmem
        rw [chain_eq, houter]
        simp only [hlt, if_true]
        rw [List.takeWhile_cons_of_pos (by simpa using hab), List.cons_append, ← hrest]

theorem mem_strictlyBetween_iff (h : b ∈ s.chain a) :
    c ∈ s.strictlyBetween a b ↔ c ∈ s.chain a ∧ b ∈ s.chain c ∧ c ≠ b := by
  unfold strictlyBetween
  induction a using Nat.strongRecOn with
  | ind a ih =>
    by_cases hab : a = b
    · subst hab
      have hempty : (s.chain a).takeWhile (· ≠ a) = [] := by
        rw [chain_eq]
        simp
      rw [hempty]
      refine ⟨fun hc ↦ absurd hc List.not_mem_nil, ?_⟩
      rintro ⟨hca, hac, hne⟩
      exact absurd (mem_chain_antisymm hac hca) hne
    · obtain rfl | ⟨outer, houter, hlt, hmem⟩ := mem_chain_iff.mp h
      · exact absurd rfl hab
      · have hchain : s.chain a = a :: s.chain outer := by
          rw [chain_eq, houter]
          simp [hlt]
        rw [hchain, List.takeWhile_cons_of_pos (by simpa using hab), List.mem_cons,
          ih outer hlt hmem, List.mem_cons]
        constructor
        · rintro (rfl | ⟨hc, hbc, hne⟩)
          · exact ⟨.inl rfl, h, hab⟩
          · exact ⟨.inr hc, hbc, hne⟩
        · rintro ⟨rfl | hc, hbc, hne⟩
          · exact .inl rfl
          · exact .inr ⟨hc, hbc, hne⟩

theorem lookup?_eq_or (h : b ∈ s.chain a) (name : String) :
    s.lookup? a name =
      ((s.strictlyBetween a b).findSome? (s.own? · name)).or (s.lookup? b name) := by
  rw [lookup?, chain_eq_append h, List.findSome?_append, lookup?]

/-- A name is found in a scope of the chain. -/
theorem exists_own?_of_lookup? {found : BindingId} (h : s.lookup? a name = some found) :
    ∃ scope ∈ s.chain a, s.own? scope name = some found :=
  List.exists_of_findSome?_eq_some h

theorem findSome?_eq_of_forall {f g : ScopeId → Option BindingId} {scopes : List ScopeId}
    (h : ∀ scope ∈ scopes, f scope = g scope) : scopes.findSome? f = scopes.findSome? g := by
  induction scopes with
  | nil => rfl
  | cons scope rest ih =>
    rw [List.findSome?_cons, List.findSome?_cons, h scope List.mem_cons_self,
      ih fun inner hinner ↦ h inner (List.mem_cons_of_mem scope hinner)]

theorem chain_congr (h : ∀ id, id ≤ a → s'.outer? id = s.outer? id) : s'.chain a = s.chain a := by
  induction a using Nat.strongRecOn with
  | ind a ih =>
    rw [chain_eq, chain_eq s, h a (Nat.le_refl a)]
    cases s.outer? a with
    | none => rfl
    | some outer =>
      by_cases hlt : outer < a
      · simp only [hlt, if_true]
        rw [ih outer hlt fun id hid ↦ h id (hid.trans hlt.le)]
      · simp [hlt]

theorem lookup?_congr (hchain : s'.chain a = s.chain a)
    (hown : ∀ scope ∈ s.chain a, s'.own? scope name = s.own? scope name) :
    s'.lookup? a name = s.lookup? a name := by
  rw [lookup?, lookup?, hchain]
  exact findSome?_eq_of_forall hown

end Relabel.Store
