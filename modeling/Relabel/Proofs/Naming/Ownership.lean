import Mathlib.Data.List.Nodup
import Relabel.Naming.Issue
import Relabel.Proofs.Table

/-!
# Owners of issued names

Fixed names, getters and handlers share one space of names, so that two of them get different names
is not a matter of how the names are spelled. It rests on the owners that a registry remembers:
once a name is issued, its owner stays, whatever the registry is asked afterwards and whether or
not it answers.
-/

namespace Relabel

namespace Role

theorem key_injective : Function.Injective key := by
  intro role role' h
  cases role <;> cases role' <;> first | rfl | exact absurd h (by decide)

theorem colon_not_mem_key (role : Role) : ':' ∉ role.key.toList := by
  cases role <;> decide

end Role

/-- What a registry names by itself. -/
inductive Holder where
  | role (role : Role)
  | getter (field : String)
  | handler (key : String)
deriving Repr, DecidableEq

namespace Holder

/-- The key under which a registry remembers an owner. -/
def owner : Holder → String
  | .role part => part.key
  | .getter field => "getter" ++ ":" ++ field
  | .handler key => "handler" ++ ":" ++ key

theorem owner_injective : Function.Injective owner := by
  have hrole (role : Role) {kind rest : String} : role.key ≠ kind ++ ":" ++ rest := by
    intro h
    apply role.colon_not_mem_key
    simp [h]
  have hkinds {field key : String} : "getter" ++ ":" ++ field ≠ "handler" ++ ":" ++ key := by
    intro h
    have hhead := congrArg (·.toList.head?) h
    simp at hhead
  intro holder holder' h
  cases holder <;> cases holder' <;> dsimp only [owner] at h
  case role.role => rw [Role.key_injective h]
  case getter.getter => simpa using h
  case handler.handler => simpa using h
  case getter.handler => exact absurd h hkinds
  case handler.getter => exact absurd h.symm hkinds
  case role.getter => exact absurd h (hrole _)
  case role.handler => exact absurd h (hrole _)
  case getter.role => exact absurd h.symm (hrole _)
  case handler.role => exact absurd h.symm (hrole _)

end Holder

namespace Registry

variable {r r' r'' : Registry}

theorem claim_eq_ok_iff {name owner : String} : r.claim name owner = .ok r' ↔
    (∀ other, r.ownerOf? name = some other → other = owner) ∧
      r' = { r with issued := r.issued.set name owner } := by
  unfold claim
  cases hother : r.ownerOf? name with
  | none => simp [eq_comm]
  | some other =>
    by_cases hsame : other = owner
    · simp [hsame, eq_comm]
    · simp [hsame]

/-- A registry at a later time: with the same settings, and with every owner that it had. What was
issued in between are identifiers. -/
structure Later (r r' : Registry) : Prop where
  lead : r'.lead = r.lead
  descriptors : r'.descriptors = r.descriptors
  parameterRoles : r'.parameterRoles = r.parameterRoles
  owner : ∀ name owner, r.ownerOf? name = some owner → r'.ownerOf? name = some owner
  identifier : ∀ name owner, r'.ownerOf? name = some owner →
    r.ownerOf? name = some owner ∨ isIdentifier name = true

namespace Later

theorem refl (r : Registry) : Later r r :=
  ⟨rfl, rfl, rfl, fun _ _ h ↦ h, fun _ _ h ↦ .inl h⟩

theorem trans (h : Later r r') (h' : Later r' r'') : Later r r'' where
  lead := h'.lead.trans h.lead
  descriptors := h'.descriptors.trans h.descriptors
  parameterRoles := h'.parameterRoles.trans h.parameterRoles
  owner name owner hissued := h'.owner name owner (h.owner name owner hissued)
  identifier name owner hissued := by
    rcases h'.identifier name owner hissued with hbefore | hname
    · exact h.identifier name owner hbefore
    · exact .inr hname

theorem nameFor (h : Later r r') (role : Role) : r'.nameFor role = r.nameFor role := by
  rw [Registry.nameFor, Registry.nameFor, h.lead, h.descriptors]

theorem claim {name owner : String} (hname : isIdentifier name = true)
    (h : r.claim name owner = .ok r') : Later r r' := by
  obtain ⟨hfree, rfl⟩ := claim_eq_ok_iff.mp h
  refine ⟨rfl, rfl, rfl, fun other by_ hissued ↦ ?_, fun other by_ hissued ↦ ?_⟩
  · simp only [ownerOf?, Table.get?_set]
    by_cases hsame : name = other
    · subst hsame
      rw [if_pos rfl, hfree by_ hissued]
    · rwa [if_neg hsame]
  · simp only [ownerOf?, Table.get?_set] at hissued
    by_cases hsame : name = other
    · exact .inr (hsame ▸ hname)
    · rw [if_neg hsame] at hissued
      exact .inl hissued

end Later

theorem ownerOf?_of_claim {name owner : String} (h : r.claim name owner = .ok r') :
    r'.ownerOf? name = some owner := by
  obtain ⟨-, rfl⟩ := claim_eq_ok_iff.mp h
  exact Table.get?_set_self _ _ _

theorem computed_eq_ok_iff {kind descriptor name : String} :
    r.computed kind descriptor name = .ok r' ↔
      isIdentifier name = true ∧ r.claim name (kind ++ ":" ++ descriptor) = .ok r' := by
  unfold computed
  by_cases hname : isIdentifier name = true <;> simp [hname]

theorem Later.computed {kind descriptor name : String}
    (h : r.computed kind descriptor name = .ok r') : Later r r' := by
  obtain ⟨hname, hclaim⟩ := computed_eq_ok_iff.mp h
  exact .claim hname hclaim

/-! ## The names of a new registry -/

theorem claimRole_eq_ok_iff {role : Role} : r.claimRole role = .ok r' ↔
    isIdentifier (r.nameFor role) = true ∧ r.claim (r.nameFor role) role.key = .ok r' := by
  unfold claimRole
  by_cases hname : isIdentifier (r.nameFor role) = true <;> simp [hname]

theorem Later.claimRole {role : Role} (h : r.claimRole role = .ok r') : Later r r' := by
  obtain ⟨hname, hclaim⟩ := claimRole_eq_ok_iff.mp h
  exact .claim hname hclaim

theorem foldlM_claimRole_cons {role : Role} {rest : List Role} :
    (role :: rest).foldlM claimRole r = .ok r' ↔
      ∃ next, r.claimRole role = .ok next ∧ rest.foldlM claimRole next = .ok r' := by
  rw [List.foldlM_cons]
  cases r.claimRole role <;> simp [bind, Except.bind]

/-- The names that a registry has issued are those of some roles. -/
def Names (r : Registry) (roles : List Role) : Prop :=
  ∀ name owner, r.ownerOf? name = some owner ↔
    ∃ role ∈ roles, r.nameFor role = name ∧ role.key = owner

theorem Names.claim {roles : List Role} {role : Role} (h : r.Names roles)
    (hfree : r.ownerOf? (r.nameFor role) = none) :
    Names { r with issued := r.issued.set (r.nameFor role) role.key } (roles ++ [role]) := by
  intro name owner
  simp only [ownerOf?, Table.get?_set, List.mem_append, List.mem_singleton, or_and_right, exists_or,
    exists_eq_left]
  refine Iff.trans ?_ (or_congr (h name owner) Iff.rfl)
  by_cases hsame : r.nameFor role = name
  · subst hsame
    rw [if_pos rfl, hfree]
    simp [Registry.nameFor]
  · rw [if_neg hsame]
    exact ⟨.inl, fun hissued ↦ hissued.resolve_right fun hrole ↦ hsame hrole.1⟩

/-- Roles can be claimed if and only if their names are identifiers and differ from each other and
from the names of the roles claimed before. -/
theorem exists_foldlM_claimRole_iff {roles rest : List Role} (h : r.Names roles)
    (hdistinct : (roles ++ rest).Nodup) :
    (∃ r', rest.foldlM claimRole r = .ok r') ↔
      ∀ role ∈ rest, isIdentifier (r.nameFor role) = true ∧
        ∀ role' ∈ roles ++ rest, r.nameFor role' = r.nameFor role → role' = role := by
  induction rest generalizing r roles with
  | nil => simp [pure, Except.pure]
  | cons role rest ih =>
    simp only [foldlM_claimRole_cons, claimRole_eq_ok_iff, claim_eq_ok_iff]
    cases howner : r.ownerOf? (r.nameFor role) with
    | some owner =>
      -- the name belongs to a role that was claimed before
      obtain ⟨role', hrole', hname, hkey⟩ := (h _ _).mp howner
      have hother : role' ≠ role := by
        rintro rfl
        exact (List.nodup_append.mp hdistinct).2.2 role' hrole' role' (List.mem_cons_self ..) rfl
      refine iff_of_false ?_ fun hall ↦ ?_
      · rintro ⟨r', next, ⟨-, hfree, -⟩, -⟩
        exact hother (Role.key_injective (hkey.trans (hfree owner rfl)))
      · refine hother ((hall role (List.mem_cons_self ..)).2 role' ?_ hname)
        exact List.mem_append_left _ hrole'
    | none =>
      have hrest : (∃ r', rest.foldlM claimRole
            { r with issued := r.issued.set (r.nameFor role) role.key } = .ok r') ↔
          ∀ other ∈ rest, isIdentifier (r.nameFor other) = true ∧
            ∀ role' ∈ roles ++ role :: rest, r.nameFor role' = r.nameFor other → role' = other := by
        rw [List.append_cons] at hdistinct ⊢
        exact ih (h.claim howner) hdistinct
      have hnew : ∀ role' ∈ roles, r.nameFor role' ≠ r.nameFor role := by
        intro role' hrole' hsame
        have hissued := (h (r.nameFor role) role'.key).mpr ⟨role', hrole', hsame, rfl⟩
        rw [howner] at hissued
        exact absurd hissued (by simp)
      constructor
      · rintro ⟨r', next, ⟨hidentifier, -, rfl⟩, hclaimed⟩
        have hothers := hrest.mp ⟨r', hclaimed⟩
        refine List.forall_mem_cons.mpr ⟨⟨hidentifier, fun role' hrole' hsame ↦ ?_⟩, hothers⟩
        rcases List.mem_append.mp hrole' with hbefore | hafter
        · exact absurd hsame (hnew role' hbefore)
        · rcases List.mem_cons.mp hafter with rfl | hafter
          · rfl
          · exact ((hothers role' hafter).2 role (by simp) hsame.symm).symm
      · intro hall
        obtain ⟨⟨hidentifier, -⟩, hothers⟩ := List.forall_mem_cons.mp hall
        obtain ⟨r', hclaimed⟩ := hrest.mpr hothers
        exact ⟨r', _, ⟨hidentifier, by simp, rfl⟩, hclaimed⟩

/-- A registry can be created if and only if the canonical names are different identifiers. -/
theorem exists_create_iff (lead : String) (descriptors : Descriptors)
    (parameterRoles : ParameterRoles) :
    (∃ r, create lead descriptors parameterRoles = .ok r) ↔
      (∀ role, isIdentifier (nameFor { lead, descriptors, parameterRoles } role) = true) ∧
        Function.Injective (nameFor { lead, descriptors, parameterRoles }) := by
  have hall (role : Role) : role ∈ Role.all := by
    cases role <;> decide
  have hnone : Names { lead, descriptors, parameterRoles } [] := fun name owner ↦ by
    simp [ownerOf?]
  rw [create, exists_foldlM_claimRole_iff hnone (by decide)]
  simp only [hall, List.nil_append, forall_true_left, forall_and]
  exact and_congr_right fun _ ↦ forall_comm

/-- A registry that has issued the canonical names of all roles, and besides only identifiers. -/
structure Sound (r : Registry) : Prop where
  identifier : ∀ name owner, r.ownerOf? name = some owner → isIdentifier name = true
  role : ∀ role, r.ownerOf? (r.nameFor role) = some role.key

theorem Sound.later (h : r.Sound) (hlater : Later r r') : r'.Sound where
  identifier name owner hissued := by
    rcases hlater.identifier name owner hissued with hbefore | hname
    · exact h.identifier name owner hbefore
    · exact hname
  role role := by
    rw [hlater.nameFor]
    exact hlater.owner _ _ (h.role role)

theorem later_of_foldlM_claimRole {roles : List Role} (h : roles.foldlM claimRole r = .ok r') :
    Later r r' ∧ ∀ role ∈ roles, r'.ownerOf? (r.nameFor role) = some role.key := by
  induction roles generalizing r with
  | nil =>
    obtain rfl : r = r' := by simpa [pure, Except.pure] using h
    exact ⟨.refl r, by simp⟩
  | cons role rest ih =>
    obtain ⟨next, hclaim, hrest⟩ := foldlM_claimRole_cons.mp h
    have hnext := Later.claimRole hclaim
    obtain ⟨hlater, howners⟩ := ih hrest
    have howner := ownerOf?_of_claim (claimRole_eq_ok_iff.mp hclaim).2
    refine ⟨hnext.trans hlater, List.forall_mem_cons.mpr ⟨hlater.owner _ _ howner, ?_⟩⟩
    intro role' h'
    rw [← hnext.nameFor]
    exact howners role' h'

theorem sound_of_create {lead : String} {descriptors : Descriptors}
    {parameterRoles : ParameterRoles} (h : create lead descriptors parameterRoles = .ok r) : r.Sound := by
  obtain ⟨hlater, howners⟩ := later_of_foldlM_claimRole h
  refine ⟨fun name owner hissued ↦ ?_, fun role ↦ ?_⟩
  · rcases hlater.identifier name owner hissued with hbefore | hname
    · simp [ownerOf?] at hbefore
    · exact hname
  · rw [hlater.nameFor]
    exact howners role (by cases role <;> decide)

end Registry

namespace Issuing

variable {α β : Type} (r : Registry)

theorem run_bind (x : Issuing α) (f : α → Issuing β) :
    (x >>= f).run r = match x.run r with
      | (.ok a, next) => (f a).run next
      | (.error fault, next) => (.error fault, next) := by
  rw [ExceptT.run_bind]
  show StateT.run (x.run >>= _) r = _
  rw [StateT.run_bind]
  rcases h : x.run r with ⟨_ | _, _⟩
  all_goals
    have hrun : StateT.run x.run r = _ := h
    rw [hrun]
    rfl

theorem run_registry : registry.run r = (.ok r, r) := rfl

theorem run_claim (issue : Registry → Except RegistryFault Registry) :
    (claim issue).run r = match issue r with
      | .ok next => (.ok (), next)
      | .error fault => (.error (.registry fault), r) := by
  rw [claim, run_bind]
  show (match issue r with | .ok next => _ | .error fault => _ : Issuing Unit).run r = _
  rcases issue r with _ | _ <;> rfl

/-- A name is issued and told, or there is a fault and nothing is issued. -/
theorem run_issue (kind descriptor : String) (name : Registry → String) :
    (do
      claim fun r ↦ r.computed kind descriptor (name r)
      return name (← registry) : Issuing String).run r =
        match r.computed kind descriptor (name r) with
        | .ok next => (.ok (name next), next)
        | .error fault => (.error (.registry fault), r) := by
  rw [run_bind, run_claim]
  rcases r.computed kind descriptor (name r) with _ | _ <;> rfl

theorem run_getterName (field : String) : (getterName field).run r =
    match r.issueGetter field with
    | .ok next => (.ok (r.getterName field), next)
    | .error fault => (.error (.registry fault), r) := by
  refine (run_issue r "getter" field (·.getterName field)).trans ?_
  rw [Registry.issueGetter]
  cases hissue : r.computed "getter" field (r.getterName field) with
  | error fault => rfl
  | ok next => simp only [Registry.getterName, (Registry.Later.computed hissue).lead]

theorem run_handlerName (key : String) : (handlerName key).run r =
    match r.issueHandler key with
    | .ok next => (.ok (r.handlerName key), next)
    | .error fault => (.error (.registry fault), r) := by
  refine (run_issue r "handler" key (·.handlerName key)).trans ?_
  rw [Registry.issueHandler]
  cases hissue : r.computed "handler" key (r.handlerName key) with
  | error fault => rfl
  | ok next => simp only [Registry.handlerName, (Registry.Later.computed hissue).lead]

/-- A computation after which a registry still has all names that it had, however it ends. -/
def Keeps (x : Issuing α) : Prop :=
  ∀ r, Registry.Later r (x.run r).2

namespace Keeps

theorem pure (a : α) : Keeps (Pure.pure a) := fun r ↦ .refl r

theorem bind {x : Issuing α} {f : α → Issuing β} (hx : Keeps x) (hf : ∀ a, Keeps (f a)) :
    Keeps (x >>= f) := by
  intro r
  have hfirst := hx r
  rw [run_bind]
  rcases hrun : x.run r with ⟨fault | a, next⟩
  · rwa [hrun] at hfirst
  · rw [hrun] at hfirst
    exact hfirst.trans (hf a next)

theorem mapM {f : α → Issuing β} (hf : ∀ a, Keeps (f a)) (as : List α) : Keeps (as.mapM f) := by
  induction as with
  | nil => exact pure []
  | cons a rest ih =>
    rw [List.mapM_cons]
    exact (hf a).bind fun b ↦ ih.bind fun bs ↦ pure (b :: bs)

theorem foldlM {f : β → α → Issuing β} (hf : ∀ b a, Keeps (f b a)) (b : β) (as : List α) :
    Keeps (as.foldlM f b) := by
  induction as generalizing b with
  | nil => exact pure b
  | cons a rest ih => exact (hf b a).bind fun next ↦ ih next

theorem computed (kind descriptor : String) (name : Registry → String) :
    Keeps (claim fun r ↦ r.computed kind descriptor (name r)) := by
  intro r
  rw [run_claim]
  cases hissue : r.computed kind descriptor (name r) with
  | error fault => exact .refl r
  | ok next => exact .computed hissue

theorem getterName (field : String) : Keeps (getterName field) :=
  (computed "getter" field (·.getterName field)).bind fun _ r ↦ .refl r

theorem handlerName (key : String) : Keeps (handlerName key) :=
  (computed "handler" key (·.handlerName key)).bind fun _ r ↦ .refl r

theorem fillTemplate (template : String) : Keeps (fillTemplate template) := by
  have hregistry : Keeps registry := fun r ↦ .refl r
  refine hregistry.bind fun r ↦ ?_
  cases Text.Template.fill "prefix" r.lead template with
  | ok text => exact pure text
  | error fault => exact fun r ↦ .refl r

theorem parameterRoles : Keeps parameterRoles := by
  have hregistry : Keeps registry := fun r ↦ .refl r
  refine hregistry.bind fun r ↦ foldlM (fun roles entry ↦ ?_) _ _
  exact (mapM fillTemplate entry.2).bind fun params ↦
    (handlerName entry.1).bind fun name ↦ pure (roles.set name params)

end Keeps

end Issuing

/-! ## Asking a registry -/

/-- What a registry can be asked. -/
inductive Enquiry where
  | name (holder : Holder)
  /-- Asks for a computed name for an owner of any kind. -/
  | computed (kind descriptor text : String)
  /-- Asks for the parameter names of all handlers. -/
  | parameters
deriving Repr, DecidableEq

inductive Answer where
  | name (text : String)
  | parameters (names : Table String (List String))

/-- Asks for the name of a holder. -/
def Holder.ask : Holder → Issuing String
  | .role part => Issuing.nameFor part
  | .getter field => Issuing.getterName field
  | .handler key => Issuing.handlerName key

def Enquiry.ask : Enquiry → Issuing Answer
  | .name holder => return .name (← holder.ask)
  | .computed kind descriptor text => do
    Issuing.claim (·.computed kind descriptor text)
    return .name text
  | .parameters => return .parameters (← Issuing.parameterRoles)

namespace Holder

theorem keeps (holder : Holder) : holder.ask.Keeps := by
  cases holder with
  | role part => exact fun r ↦ .refl r
  | getter field => exact .getterName field
  | handler key => exact .handlerName key

/-- The name of a holder under the settings of a registry. -/
def called (r : Registry) : Holder → String
  | .role part => r.nameFor part
  | .getter field => r.getterName field
  | .handler key => r.handlerName key

theorem ask_computed_cases {r : Registry} {ask : Issuing String} {kind descriptor name : String}
    (h : ask.run r = match r.computed kind descriptor name with
      | .ok next => (.ok name, next)
      | .error fault => (.error (.registry fault), r)) :
    (∃ next, ask.run r = (.ok name, next) ∧
        next.ownerOf? name = some (kind ++ ":" ++ descriptor)) ∨
      ∃ fault, ask.run r = (.error fault, r) := by
  cases hissue : r.computed kind descriptor name with
  | error fault => exact .inr ⟨.registry fault, by rw [h, hissue]⟩
  | ok next =>
    refine .inl ⟨next, by rw [h, hissue], ?_⟩
    exact Registry.ownerOf?_of_claim (Registry.computed_eq_ok_iff.mp hissue).2

/-- A holder is told its name, which then belongs to it, or there is a fault that leaves no
trace. -/
theorem ask_cases {r : Registry} (hr : r.Sound) (holder : Holder) :
    (∃ next, holder.ask.run r = (.ok (holder.called r), next) ∧
        next.ownerOf? (holder.called r) = some holder.owner) ∨
      ∃ fault, holder.ask.run r = (.error fault, r) := by
  cases holder with
  | role part => exact .inl ⟨r, rfl, hr.role part⟩
  | getter field => exact ask_computed_cases (Issuing.run_getterName r field)
  | handler key => exact ask_computed_cases (Issuing.run_handlerName r key)

end Holder

namespace Enquiry

theorem keeps (e : Enquiry) : e.ask.Keeps := by
  cases e with
  | name holder => exact holder.keeps.bind fun name ↦ .pure _
  | computed kind descriptor text =>
    exact (Issuing.Keeps.computed kind descriptor fun _ ↦ text).bind fun _ ↦ .pure _
  | parameters => exact Issuing.Keeps.parameterRoles.bind fun names ↦ .pure _

theorem ownerOf?_of_ask {r : Registry} (hr : r.Sound) {holder : Holder} {text : String}
    (h : ((name holder).ask.run r).1 = .ok (.name text)) :
    ((name holder).ask.run r).2.ownerOf? text = some holder.owner := by
  rw [ask, Issuing.run_bind] at h ⊢
  rcases holder.ask_cases hr with ⟨next, hrun, howner⟩ | ⟨fault, hrun⟩
  · rw [hrun] at h ⊢
    obtain rfl : holder.called r = text := by injection h with h; injection h
    exact howner
  · rw [hrun] at h
    injection h

/-- An enquiry for one name that fails leaves the registry as it was. -/
theorem eq_of_ask_eq_error {r : Registry} (hr : r.Sound) {e : Enquiry} (he : e ≠ parameters)
    {fault : Fault} (h : (e.ask.run r).1 = .error fault) : (e.ask.run r).2 = r := by
  cases e with
  | name holder =>
    rw [ask, Issuing.run_bind] at h ⊢
    rcases holder.ask_cases hr with ⟨next, hrun, -⟩ | ⟨fault, hrun⟩
    · rw [hrun] at h
      injection h
    · rw [hrun]
  | computed kind descriptor text =>
    rw [ask, Issuing.run_bind, Issuing.run_claim] at h ⊢
    cases hissue : r.computed kind descriptor text with
    | ok next =>
      rw [hissue] at h
      injection h
    | error fault => rfl
  | parameters => exact absurd rfl he

end Enquiry

namespace Registry

variable {r : Registry}

/-- The registry after enquiries, one after the other, answered or not. -/
def after (r : Registry) (history : List Enquiry) : Registry :=
  history.foldl (fun r e ↦ (e.ask.run r).2) r

/-- The enquiries with what was answered. -/
def transcript (r : Registry) : List Enquiry → List (Enquiry × Except Fault Answer)
  | [] => []
  | e :: rest => (e, (e.ask.run r).1) :: transcript (e.ask.run r).2 rest

theorem later_after (r : Registry) (history : List Enquiry) : Later r (r.after history) := by
  induction history generalizing r with
  | nil => exact .refl r
  | cons e rest ih => exact (e.keeps r).trans (ih _)

/-- All names told in the course of enquiries belong in the end to those they were told to. -/
theorem ownerOf?_of_mem_transcript (hr : r.Sound) {history : List Enquiry} {holder : Holder}
    {text : String} (h : (.name holder, .ok (.name text)) ∈ r.transcript history) :
    (r.after history).ownerOf? text = some holder.owner := by
  induction history generalizing r with
  | nil => simp [transcript] at h
  | cons e rest ih =>
    rcases List.mem_cons.mp h with hfirst | hrest
    · obtain ⟨rfl, hanswer⟩ := Prod.mk.inj hfirst
      exact (later_after _ rest).owner _ _ (Enquiry.ownerOf?_of_ask hr hanswer.symm)
    · exact ih (hr.later (e.keeps r)) hrest

end Registry

/-- A registry can be created if and only if the canonical names are different identifiers. From
then on, after any enquiries, all issued names are identifiers and have one owner for ever; two
holders are never told the same name; and only an enquiry for all parameter names can fail and
nevertheless issue something. -/
theorem one_owner_for_ever (lead : String) (descriptors : Descriptors)
    (parameterRoles : ParameterRoles) :
    ((∃ r, Registry.create lead descriptors parameterRoles = .ok r) ↔
        (∀ role,
          isIdentifier (Registry.nameFor { lead, descriptors, parameterRoles } role) = true) ∧
        Function.Injective (Registry.nameFor { lead, descriptors, parameterRoles })) ∧
      ∀ r, Registry.create lead descriptors parameterRoles = .ok r →
        ∀ history : List Enquiry,
          (∀ text owner, (r.after history).ownerOf? text = some owner →
            isIdentifier text = true ∧
              ∀ more, (r.after (history ++ more)).ownerOf? text = some owner) ∧
          (∀ holder holder' text, (.name holder, .ok (.name text)) ∈ r.transcript history →
            (.name holder', .ok (.name text)) ∈ r.transcript history → holder = holder') ∧
          ∀ (e : Enquiry) (fault : Fault), e ≠ .parameters →
            (e.ask.run (r.after history)).1 = .error fault →
              (e.ask.run (r.after history)).2 = r.after history := by
  refine ⟨Registry.exists_create_iff lead descriptors parameterRoles, fun r hcreate history ↦ ?_⟩
  have hr := Registry.sound_of_create hcreate
  have hafter := hr.later (r.later_after history)
  refine ⟨fun text owner hissued ↦ ⟨hafter.identifier text owner hissued, fun more ↦ ?_⟩, ?_, ?_⟩
  · rw [Registry.after, List.foldl_append]
    exact (Registry.later_after _ more).owner text owner hissued
  · intro holder holder' text htold htold'
    have howner := Registry.ownerOf?_of_mem_transcript hr htold
    rw [Registry.ownerOf?_of_mem_transcript hr htold'] at howner
    exact (Holder.owner_injective (Option.some.inj howner)).symm
  · exact fun e fault he hfault ↦ Enquiry.eq_of_ask_eq_error hafter he hfault

/-- A getter that is called like the handler of another key finds its name taken. -/
theorem one_owner_for_ever_shared_spelling :
    ∃ r, Registry.create "___" Role.defaultDescriptor defaultParameterRoles = .ok r ∧
      let history : List Enquiry :=
        [.name (.handler "get_t"), .name (.role .atobCall), .computed "getter" "x" "not a name"]
      (∀ more, (r.after (history ++ more)).ownerOf? "___get_tHandler" = some "handler:get_t") ∧
        ((Enquiry.name (.getter "tHandler")).ask.run (r.after history)).2 = r.after history := by
  have hobserved : ((Registry.create "___" Role.defaultDescriptor
        defaultParameterRoles).toOption.map fun r ↦
      let next := r.after
        [.name (.handler "get_t"), .name (.role .atobCall), .computed "getter" "x" "not a name"]
      (next.ownerOf? "___get_tHandler",
        ((Enquiry.name (.getter "tHandler")).ask.run next).1.toOption.isSome)) =
      some (some "handler:get_t", false) := by
    decide +kernel
  cases hcreate : Registry.create "___" Role.defaultDescriptor defaultParameterRoles with
  | error fault =>
    rw [hcreate] at hobserved
    exact absurd hobserved (by simp [Except.toOption])
  | ok r =>
    rw [hcreate] at hobserved
    obtain ⟨howner, hrefused⟩ := Prod.mk.inj (Option.some.inj hobserved)
    obtain ⟨hkept, -, hfailed⟩ := (one_owner_for_ever "___" Role.defaultDescriptor
      defaultParameterRoles).2 r hcreate _
    refine ⟨r, rfl, (hkept _ _ howner).2, ?_⟩
    cases hanswer : ((Enquiry.name (.getter "tHandler")).ask.run (r.after _)).1 with
    | error fault => exact hfailed _ fault (by decide) hanswer
    | ok answer =>
      rw [hanswer] at hrefused
      exact absurd hrefused (by simp [Except.toOption])

end Relabel
