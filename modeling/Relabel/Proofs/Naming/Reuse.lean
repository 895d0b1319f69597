import Relabel.Proofs.Naming.Refusal

/-!
# Registries that are used again

A registry that was used before stands beside a new one with the same settings. It answers like the
new one, as long as no name is asked for that it gave to somebody else before: what it remembers
besides can only make it refuse a name. Computations of names are therefore compared in pairs.
-/

namespace Relabel

namespace Registry

variable {r used now now' next : Registry}

/-- A registry has issued a name. -/
def Owns (r : Registry) (name : String) : Prop :=
  (r.ownerOf? name).isSome = true

theorem Owns.later {name : String} (h : now.Owns name) (hlater : Later now next) :
    next.Owns name := by
  obtain ⟨owner, howner⟩ := Option.isSome_iff_exists.mp h
  exact Option.isSome_iff_exists.mpr ⟨owner, hlater.owner name owner howner⟩

theorem Sound.owns_nameFor (h : r.Sound) (role : Role) : r.Owns (r.nameFor role) :=
  Option.isSome_iff_exists.mpr ⟨role.key, h.role role⟩

/-- What has become of a registry `r`, beside what has become of another one with the same settings
that was `used` before. A name that the first has not issued has the owner that the other one
remembers. -/
structure Beside (r used now now' : Registry) : Prop where
  later : Later r now
  lead : now'.lead = now.lead
  descriptors : now'.descriptors = now.descriptors
  parameterRoles : now'.parameterRoles = now.parameterRoles
  owner : ∀ name, now'.ownerOf? name = (now.ownerOf? name).or (used.ownerOf? name)

theorem Later.beside (h : Later r used) : Beside r used r used where
  later := .refl r
  lead := h.lead
  descriptors := h.descriptors
  parameterRoles := h.parameterRoles
  owner name := by
    cases howner : r.ownerOf? name with
    | none => rfl
    | some owner => exact h.owner name owner howner

namespace Beside

theorem nameFor (h : Beside r used now now') (role : Role) :
    now'.nameFor role = now.nameFor role := by
  rw [Registry.nameFor, Registry.nameFor, h.lead, h.descriptors]

/-- Only what happens from now on is looked at. -/
theorem rebase (h : Beside r used now now') : Beside now used now now' :=
  { h with later := .refl now }

theorem base {start : Registry} (h : Beside start used now now') (hlater : Later r start) :
    Beside r used now now' :=
  { h with later := hlater.trans h.later }

theorem set (h : Beside r used now now') {name owner : String} (hlater : Later r next)
    (hnext : next = { now with issued := now.issued.set name owner }) :
    Beside r used next { now' with issued := now'.issued.set name owner } := by
  subst hnext
  refine ⟨hlater, h.lead, h.descriptors, h.parameterRoles, fun other ↦ ?_⟩
  simp only [ownerOf?, Table.get?_set]
  by_cases hsame : name = other
  · rw [if_pos hsame, if_pos hsame, Option.some_or]
  · rw [if_neg hsame, if_neg hsame]
    exact h.owner other

end Beside

/-- A fault over a name that was given to one owner before, and that the new registry, since it was
`r`, has given to another. -/
def Contested (r used now : Registry) (fault : Fault) : Prop :=
  ∃ name owner claimant, fault = .registry (.clash name owner claimant) ∧ owner ≠ claimant ∧
    r.ownerOf? name = none ∧ used.ownerOf? name = some owner ∧ now.ownerOf? name = some claimant

namespace Contested

variable {fault : Fault}

theorem later (h : Contested r used now fault) (hlater : Later now next) :
    Contested r used next fault := by
  obtain ⟨name, owner, claimant, hfault, hne, hnew, hused, hnow⟩ := h
  exact ⟨name, owner, claimant, hfault, hne, hnew, hused, hlater.owner name claimant hnow⟩

theorem base {start : Registry} (h : Contested start used now fault) (hlater : Later r start) :
    Contested r used now fault := by
  obtain ⟨name, owner, claimant, hfault, hne, hnew, hused, hnow⟩ := h
  refine ⟨name, owner, claimant, hfault, hne, ?_, hused, hnow⟩
  cases howner : r.ownerOf? name with
  | none => rfl
  | some other =>
    rw [hlater.owner name other howner] at hnew
    exact absurd hnew (by simp)

end Contested

/-- Both registries issue a name, or refuse it for one reason, or the used one refuses it because
somebody else had it before. -/
theorem Beside.computed_cases (h : Beside r used now now') (kind descriptor name : String) :
    (∃ next next', now.computed kind descriptor name = .ok next ∧
        now'.computed kind descriptor name = .ok next' ∧ Beside r used next next') ∨
      (∃ fault, now.computed kind descriptor name = .error fault ∧
        now'.computed kind descriptor name = .error fault) ∨
      ∃ next fault, now.computed kind descriptor name = .ok next ∧
        now'.computed kind descriptor name = .error fault ∧
        Contested r used next (.registry fault) := by
  unfold computed
  by_cases hname : isIdentifier name = true
  · rw [if_pos hname, if_pos hname]
    generalize kind ++ ":" ++ descriptor = claimant
    cases hclaim : now.claim name claimant with
    | error fault =>
      obtain ⟨owner, howner, hne, rfl⟩ := claim_eq_error_iff.mp hclaim
      refine .inr (.inl ⟨_, rfl, claim_eq_error_iff.mpr ⟨owner, ?_, hne, rfl⟩⟩)
      rw [h.owner, howner, Option.some_or]
    | ok next =>
      have hlater := h.later.trans (.claim hname hclaim)
      obtain ⟨hfree, hnext⟩ := claim_eq_ok_iff.mp hclaim
      cases hclaim' : now'.claim name claimant with
      | ok next' =>
        obtain ⟨-, rfl⟩ := claim_eq_ok_iff.mp hclaim'
        exact .inl ⟨_, _, rfl, rfl, h.set hlater hnext⟩
      | error fault =>
        obtain ⟨owner, howner, hne, rfl⟩ := claim_eq_error_iff.mp hclaim'
        have hnone : now.ownerOf? name = none := by
          cases hsome : now.ownerOf? name with
          | none => rfl
          | some other =>
            rw [h.owner, hsome, Option.some_or, Option.some.injEq] at howner
            exact absurd (howner.symm.trans (hfree other hsome)) hne
        rw [h.owner, hnone, Option.none_or] at howner
        have hcontested : Contested now used next (.registry (.clash name owner claimant)) :=
          ⟨name, owner, claimant, rfl, hne, hnone, howner, ownerOf?_of_claim hclaim⟩
        exact .inr (.inr ⟨next, _, rfl, rfl, hcontested.base h.later⟩)
  · exact .inr (.inl ⟨_, if_neg hname, if_neg hname⟩)

end Registry

namespace Issuing

open Registry

variable {α β : Type}

/-- What two registries beside each other make of a computation: the used one refuses a name over
what it remembers, or the results are the same, and the registries are beside each other again. -/
inductive Echo (r used : Registry) (result result' : Except Fault α × Registry) : Prop
  | refused (fault : Fault) (failed : result'.1 = .error fault)
      (contested : Contested r used result.2 fault)
  | same (answer : result'.1 = result.1) (beside : Beside r used result.2 result'.2)

/-- A computation that two registries beside each other answer in the same way, unless the used one
refuses a name. From a registry with a property it leads to a result and a registry with a
property. -/
structure Echoes (r used : Registry) (P : Registry → Prop) (S : Registry → α → Prop)
    (x : Issuing α) : Prop where
  later : ∀ now, Later r now → P now → Later now (x.run now).2
  holds : ∀ now, Later r now → P now → ∀ a, (x.run now).1 = .ok a → S (x.run now).2 a
  echo : ∀ now now', P now → Beside r used now now' → Echo r used (x.run now) (x.run now')

namespace Echoes

variable {r used : Registry} {P : Registry → Prop} {R S : Registry → α → Prop}

theorem pure {a : α} (h : ∀ now, Later r now → P now → S now a) :
    Echoes r used P S (Pure.pure a) where
  later now _ _ := .refl now
  holds now hlater hP b hb := by
    obtain rfl := Except.ok.inj hb
    exact h now hlater hP
  echo _ _ _ h := .same rfl h

theorem throw (fault : Fault) : Echoes r used P S (MonadExcept.throw fault : Issuing α) where
  later now _ _ := .refl now
  holds now _ _ a ha := by injection ha
  echo _ _ _ h := .same rfl h

theorem bind {S : Registry → β → Prop} {x : Issuing α} {f : α → Issuing β}
    (hx : Echoes r used P R x) (hf : ∀ a, Echoes r used (R · a) S (f a)) :
    Echoes r used P S (x >>= f) where
  later now hlater hP := by
    have hfirst := hx.later now hlater hP
    have hheld := hx.holds now hlater hP
    rw [run_bind]
    rcases hrun : x.run now with ⟨fault | a, next⟩
    · rwa [hrun] at hfirst
    · rw [hrun] at hfirst hheld
      exact hfirst.trans ((hf a).later next (hlater.trans hfirst) (hheld a rfl))
  holds now hlater hP b hb := by
    have hfirst := hx.later now hlater hP
    have hheld := hx.holds now hlater hP
    rw [run_bind] at hb ⊢
    rcases hrun : x.run now with ⟨fault | a, next⟩
    · rw [hrun] at hb
      injection hb
    · rw [hrun] at hfirst hheld hb
      exact (hf a).holds next (hlater.trans hfirst) (hheld a rfl) b hb
  echo now now' hP h := by
    have hfirst := hx.later now h.later hP
    have hheld := hx.holds now h.later hP
    have hecho := hx.echo now now' hP h
    rw [run_bind, run_bind]
    rcases hrun : x.run now with ⟨answer, next⟩
    rcases hrun' : x.run now' with ⟨answer', next'⟩
    rw [hrun, hrun'] at hecho
    rw [hrun] at hfirst hheld
    cases hecho with
    | refused fault hfailed hcontested =>
      obtain rfl : answer' = .error fault := hfailed
      refine .refused fault rfl ?_
      cases answer with
      | error other => exact hcontested
      | ok a => exact hcontested.later ((hf a).later next (h.later.trans hfirst) (hheld a rfl))
    | same hanswer hbeside =>
      obtain rfl : answer' = answer := hanswer
      cases answer' with
      | error fault => exact .same rfl hbeside
      | ok a => exact (hf a).echo next next' (hheld a rfl) hbeside

/-- What holds from then on once it holds may be kept in mind. -/
theorem frame {x : Issuing α} {F : Registry → Prop}
    (hF : ∀ now next, Later now next → F now → F next) (hx : Echoes r used P S x) :
    Echoes r used (fun now ↦ P now ∧ F now) (fun now a ↦ S now a ∧ F now) x where
  later now hlater hP := hx.later now hlater hP.1
  holds now hlater hP a ha :=
    ⟨hx.holds now hlater hP.1 a ha, hF now _ (hx.later now hlater hP.1) hP.2⟩
  echo now now' hP h := hx.echo now now' hP.1 h

theorem weaken {x : Issuing α} {P' : Registry → Prop} {S' : Registry → α → Prop}
    (hx : Echoes r used P S x) (hP : ∀ now, P' now → P now) (hS : ∀ now a, S now a → S' now a) :
    Echoes r used P' S' x where
  later now hlater h := hx.later now hlater (hP now h)
  holds now hlater h a ha := hS _ a (hx.holds now hlater (hP now h) a ha)
  echo now now' h := hx.echo now now' (hP now h)

/-- A computation may read what the two registries have in common. -/
theorem read {f : Registry → Issuing α}
    (hsame : ∀ now now', P now → Beside r used now now' → f now' = f now)
    (hf : ∀ now, Later r now → P now → Echoes r used (· = now) S (f now)) :
    Echoes r used P S (registry >>= f) where
  later now hlater hP := (hf now hlater hP).later now hlater rfl
  holds now hlater hP := (hf now hlater hP).holds now hlater rfl
  echo now now' hP h := by
    show Echo r used ((f now).run now) ((f now').run now')
    rw [hsame now now' hP h]
    exact (hf now h.later hP).echo now now' rfl h

theorem mapM {S : Registry → β → Prop} {f : α → Issuing β} {as : List α}
    (hS : ∀ b now next, Later now next → S now b → S next b)
    (hf : ∀ a ∈ as, Echoes r used (fun _ ↦ True) S (f a)) :
    Echoes r used (fun _ ↦ True) (fun now bs ↦ ∀ b ∈ bs, S now b) (as.mapM f) := by
  induction as with
  | nil => exact pure (by simp)
  | cons a rest ih =>
    rw [List.mapM_cons]
    refine (hf a List.mem_cons_self).bind fun b ↦ ?_
    have hrest := (ih fun c hc ↦ hf c (List.mem_cons_of_mem a hc)).frame (hS b)
    refine (hrest.weaken (fun now hb ↦ ⟨trivial, hb⟩) fun _ _ h ↦ h).bind fun bs ↦ pure ?_
    exact fun now _ h ↦ List.forall_mem_cons.mpr ⟨h.2, h.1⟩

theorem foldlM {f : β → α → Issuing β} {as : List α}
    (hf : ∀ b, ∀ a ∈ as, Echoes r used (fun _ ↦ True) (fun _ _ ↦ True) (f b a)) (b : β) :
    Echoes r used (fun _ ↦ True) (fun _ _ ↦ True) (as.foldlM f b) := by
  induction as generalizing b with
  | nil => exact pure fun _ _ h ↦ h
  | cons a rest ih =>
    rw [List.foldlM_cons]
    exact (hf b a List.mem_cons_self).bind fun next ↦
      ih (fun c d hd ↦ hf c d (List.mem_cons_of_mem a hd)) next

theorem nameFor (role : Role) :
    Echoes r used P (fun now name ↦ P now ∧ name = r.nameFor role) (nameFor role) := by
  refine read (fun now now' _ h ↦ ?_) fun now hlater hP ↦ pure ?_
  · rw [h.nameFor]
  · rintro _ - rfl
    exact ⟨hP, hlater.nameFor role⟩

/-- A name is issued by both registries, or refused. -/
theorem computed {ask : Issuing String} {kind descriptor : String} {name : Registry → String}
    (hask : ∀ now, ask.run now = match now.computed kind descriptor (name now) with
      | .ok next => (.ok (name now), next)
      | .error fault => (.error (.registry fault), now))
    (hname : ∀ now now', Beside r used now now' → name now' = name now) :
    Echoes r used P (fun now name ↦ now.Owns name) ask where
  later now _ _ := by
    rw [hask]
    cases hissue : now.computed kind descriptor (name now) with
    | ok next => exact .computed hissue
    | error fault => exact .refl now
  holds now _ _ a ha := by
    rw [hask] at ha ⊢
    cases hissue : now.computed kind descriptor (name now) with
    | ok next =>
      rw [hissue] at ha
      obtain rfl := Except.ok.inj ha
      have howner := ownerOf?_of_claim (computed_eq_ok_iff.mp hissue).2
      exact Option.isSome_iff_exists.mpr ⟨_, howner⟩
    | error fault =>
      rw [hissue] at ha
      injection ha
  echo now now' _ h := by
    rw [hask, hask, hname now now' h]
    rcases h.computed_cases kind descriptor (name now) with ⟨next, next', hissue, hissue', hnext⟩ |
      ⟨fault, hissue, hissue'⟩ | ⟨next, fault, hissue, hissue', hcontested⟩
    · rw [hissue, hissue']
      exact .same rfl hnext
    · rw [hissue, hissue']
      exact .same rfl h
    · rw [hissue, hissue']
      exact .refused _ rfl hcontested

theorem getterName (field : String) :
    Echoes r used P (fun now name ↦ now.Owns name) (getterName field) :=
  computed (run_getterName · field) fun now now' h ↦ by
    rw [Registry.getterName, Registry.getterName, h.lead]

theorem handlerName (key : String) :
    Echoes r used P (fun now name ↦ now.Owns name) (handlerName key) :=
  computed (run_handlerName · key) fun now now' h ↦ by
    rw [Registry.handlerName, Registry.handlerName, h.lead]

theorem fillTemplate (template : String) :
    Echoes r used P (fun _ _ ↦ True) (fillTemplate template) := by
  refine read (fun now now' _ h ↦ ?_) fun now _ _ ↦ ?_
  · rw [h.lead]
  · cases Text.Template.fill "prefix" now.lead template with
    | ok text => exact pure fun _ _ _ ↦ trivial
    | error fault => exact throw _

theorem parameterRoles : Echoes r used P (fun _ _ ↦ True) parameterRoles := by
  refine read (fun now now' _ h ↦ ?_) fun now _ _ ↦ ?_
  · rw [h.parameterRoles]
  · refine (foldlM (fun roles entry _ ↦ ?_) _).weaken (fun _ _ ↦ trivial) fun _ _ h ↦ h
    refine (mapM (S := fun _ _ ↦ True) (fun _ _ _ _ h ↦ h) fun template _ ↦
      fillTemplate template).bind fun params ↦ ?_
    exact (handlerName entry.1).bind fun name ↦ pure fun _ _ _ ↦ trivial

/-- What a registry gives that has been used, it gave when it was new. -/
theorem ok_of_later {x : Issuing α} (hx : Echoes r used P S x) (hP : P r) (hlater : Later r used)
    {a : α} (h : (x.run used).1 = .ok a) : (x.run r).1 = .ok a := by
  cases hx.echo r used hP hlater.beside with
  | refused fault hfailed => exact absurd (h.symm.trans hfailed) (by simp)
  | same hanswer => exact hanswer.symm.trans h

end Echoes

end Issuing

end Relabel
