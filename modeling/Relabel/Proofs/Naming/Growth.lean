import Relabel.Idiom.Getter
import Relabel.Proofs.Naming.Ownership

/-!
# Registries that name getters

Naming getters adds their names to a registry and changes nothing else. Whether the name of a getter
is given out, and which functions count as named by somebody else, can therefore be asked of the
registry as it was before any getter was named.
-/

namespace Relabel.Registry

variable {r r' r'' : Registry} {field : String}

/-- The name of the getter of a field is an identifier, and nobody else has it. -/
structure Admits (r : Registry) (field : String) : Prop where
  identifier : isIdentifier (r.getterName field) = true
  owner : ∀ owner, r.ownerOf? (r.getterName field) = some owner →
    owner = (Holder.getter field).owner

instance (r : Registry) (field : String) : Decidable (r.Admits field) :=
  decidable_of_iff (isIdentifier (r.getterName field) = true ∧
      ∀ owner ∈ r.ownerOf? (r.getterName field), owner = (Holder.getter field).owner)
    ⟨fun h ↦ ⟨h.1, h.2⟩, fun h ↦ ⟨h.identifier, h.owner⟩⟩

theorem getterName_injective (r : Registry) : Function.Injective r.getterName := by
  intro field field' h
  simpa [getterName] using h

theorem issueGetter_eq_ok_iff : r.issueGetter field = .ok r' ↔ r.Admits field ∧
    r' = { r with issued := r.issued.set (r.getterName field) (Holder.getter field).owner } := by
  rw [issueGetter, computed_eq_ok_iff, claim_eq_ok_iff, ← and_assoc]
  exact and_congr_left fun _ ↦ ⟨fun h ↦ ⟨h.1, h.2⟩, fun h ↦ ⟨h.identifier, h.owner⟩⟩

theorem exists_issueGetter_eq_error (h : ¬ r.Admits field) :
    ∃ fault, r.issueGetter field = .error fault := by
  cases hissue : r.issueGetter field with
  | error fault => exact ⟨fault, rfl⟩
  | ok next => exact absurd (issueGetter_eq_ok_iff.mp hissue).1 h

/-- The names of getters are told from those that somebody else has. -/
theorem startsWith_owner_getter (field : String) :
    (Holder.getter field).owner.startsWith "getter:" = true := by
  rw [String.startsWith_string_iff, Holder.owner, String.toList_append]
  exact List.prefix_append _ _

/-- A registry that has issued nothing but names of getters since. -/
structure Grown (r r' : Registry) : Prop where
  lead : r'.lead = r.lead
  descriptors : r'.descriptors = r.descriptors
  parameterRoles : r'.parameterRoles = r.parameterRoles
  owner : ∀ name, r'.ownerOf? name = r.ownerOf? name ∨ r.ownerOf? name = none ∧
    ∃ field, r.getterName field = name ∧ r'.ownerOf? name = some (Holder.getter field).owner

namespace Grown

theorem refl (r : Registry) : Grown r r :=
  ⟨rfl, rfl, rfl, fun _ ↦ .inl rfl⟩

theorem getterName (h : Grown r r') (field : String) : r'.getterName field = r.getterName field := by
  rw [Registry.getterName, Registry.getterName, h.lead]

theorem trans (h : Grown r r') (h' : Grown r' r'') : Grown r r'' where
  lead := h'.lead.trans h.lead
  descriptors := h'.descriptors.trans h.descriptors
  parameterRoles := h'.parameterRoles.trans h.parameterRoles
  owner name := by
    rcases h'.owner name with hsame | ⟨hfree, field, hname, howner⟩
    · rw [hsame]
      exact h.owner name
    · rcases h.owner name with hbefore | ⟨-, other, -, hissued⟩
      · exact .inr ⟨hbefore.symm.trans hfree, field, (h.getterName field).symm.trans hname, howner⟩
      · rw [hfree] at hissued
        exact absurd hissued (by simp)

theorem issueGetter (h : r.issueGetter field = .ok r') : Grown r r' := by
  obtain ⟨hadmits, rfl⟩ := issueGetter_eq_ok_iff.mp h
  refine ⟨rfl, rfl, rfl, fun name ↦ ?_⟩
  simp only [ownerOf?, Table.get?_set]
  by_cases hname : r.getterName field = name
  · subst hname
    cases howner : r.ownerOf? (r.getterName field) with
    | none => exact .inr ⟨howner, field, rfl, if_pos rfl⟩
    | some owner =>
      left
      rw [if_pos rfl, ← hadmits.owner owner howner]
      exact howner.symm
  · exact .inl (if_neg hname)

/-- Whether the name of a getter can be issued does not change as getters are named. -/
theorem admits_iff (h : Grown r r') : r'.Admits field ↔ r.Admits field := by
  have howner : (∀ owner, r'.ownerOf? (r.getterName field) = some owner →
        owner = (Holder.getter field).owner) ↔
      ∀ owner, r.ownerOf? (r.getterName field) = some owner →
        owner = (Holder.getter field).owner := by
    rcases h.owner (r.getterName field) with hsame | ⟨hfree, other, hname, howner⟩
    · rw [hsame]
    · obtain rfl := r.getterName_injective hname
      simp [hfree, howner]
  constructor
  · rintro ⟨hidentifier, hclear⟩
    rw [h.getterName] at hidentifier hclear
    exact ⟨hidentifier, howner.mp hclear⟩
  · rintro ⟨hidentifier, hclear⟩
    refine ⟨?_, ?_⟩
    · rwa [h.getterName]
    · rw [h.getterName]
      exact howner.mpr hclear

/-- The same functions count as named by somebody else. -/
theorem isNamedByOther_eq (h : Grown r r') (name : String) :
    Recognition.isNamedByOther r' name = Recognition.isNamedByOther r name := by
  unfold Recognition.isNamedByOther
  rcases h.owner name with hsame | ⟨hfree, field, -, howner⟩
  · rw [hsame]
  · rw [hfree, howner, Option.any_some, Option.any_none, startsWith_owner_getter]
    rfl

theorem returnedIdentifier?_eq (h : Grown r r') (n : Node) :
    Recognition.returnedIdentifier? r' n = Recognition.returnedIdentifier? r n := by
  have hnamed : Recognition.isNamedByOther r' = Recognition.isNamedByOther r :=
    funext h.isNamedByOther_eq
  rw [Recognition.returnedIdentifier?, Recognition.returnedIdentifier?, hnamed]

end Grown

/-- The name of the last getter in a chain of getters that ends at a spelling. -/
def chainName (r : Registry) (k : Nat) (text : String) : String :=
  String.join (List.replicate k (r.lead ++ "get_")) ++ text

@[simp]
theorem chainName_zero (r : Registry) (text : String) : r.chainName 0 text = text := by
  simp [chainName]

theorem chainName_succ (r : Registry) (k : Nat) (text : String) :
    r.chainName (k + 1) text = r.getterName (r.chainName k text) := by
  simp [chainName, getterName, List.replicate_succ, String.append_assoc]

theorem Grown.chainName_eq (h : Grown r r') (k : Nat) (text : String) :
    r'.chainName k text = r.chainName k text := by
  rw [chainName, chainName, h.lead]

end Relabel.Registry
