import Relabel.Proofs.Idiom.Answer
import Relabel.Proofs.Labeling.Idempotence
import Relabel.Proofs.Naming.Reuse

/-!
# Idioms and registries that were used before

Idioms read two things of a registry: the names that it gives, and, for getters, whether a name
belongs to somebody else. With a registry that remembers other programs an idiom finds the same as
with a new one, if the two agree on the names of the functions that look like getters, until a name
is asked for that belongs to somebody else by now.
-/

namespace Relabel

open Issuing (Echo Echoes)

namespace Recognition

/-! ## What recognisers read of a registry -/

/-- The name of a function whose body is exactly `return` and an identifier, and the identifier. -/
def getter? (n : Node) : Option (String × Node) := do
  guard (n.hasKind .functionDeclaration)
  let id ← identifier? n .id
  let argument ← n.soleReturn?.filter (·.isIdentifier)
  return (id.head.name.getD "", argument)

theorem returnedIdentifier?_eq (r : Registry) (n : Node) :
    returnedIdentifier? r n = (getter? n).bind fun (name, argument) ↦
      if isNamedByOther r name then none else some argument := by
  unfold returnedIdentifier? getter?
  by_cases hkind : n.hasKind .functionDeclaration = true
  · cases identifier? n .id with
    | none => simp [hkind]
    | some id =>
      cases n.soleReturn?.filter (·.isIdentifier) with
      | none => simp [hkind]
      | some argument =>
        by_cases hother : isNamedByOther r (id.head.name.getD "") = true
        · simp [hkind, hother]
        · simp [hkind, hother]
  · simp only [guard, if_neg hkind]
    rfl

/-- A getter is a getter under edits, under its own name or one that an edit gives. -/
theorem getter?_apply {e : Edits} {n : Node} {name : String} {argument : Node}
    (h : getter? (e.apply n) = some (name, argument)) :
    ∃ own returned, getter? n = some (own, returned) ∧
      (name = own ∨ ∃ x, e.spellings.get? x = some name) := by
  unfold getter? identifier? at h
  simp only [Option.bind_eq_bind, Option.bind_eq_some_iff, Edits.hasKind_apply,
    Edits.child?_apply e n (by decide : Field.id ≠ .key), Edits.soleReturn?_apply,
    Option.filter_eq_some_iff, Option.map_eq_some_iff] at h
  obtain ⟨⟨⟩, hkind, _, ⟨⟨id, hid, rfl⟩, hidentifier⟩, _, ⟨⟨returned, hreturned, rfl⟩, hargument⟩,
    hsame⟩ := h
  obtain ⟨rfl, -⟩ := Prod.mk.inj (Option.some.inj hsame)
  rw [Edits.isIdentifier_apply] at hidentifier hargument
  refine ⟨id.head.name.getD "", returned, ?_, ?_⟩
  · unfold getter? identifier?
    simp only [Option.bind_eq_bind, Option.bind_eq_some_iff, Option.filter_eq_some_iff]
    exact ⟨(), hkind, id, ⟨hid, hidentifier⟩, returned, ⟨hreturned, hargument⟩, rfl⟩
  · rw [Edits.head_apply]
    cases hspelled : e.spellings.get? id.head.id with
    | none => exact .inl (by simp [Edits.applyHead, Edits.spelling?, hspelled])
    | some text => exact .inr ⟨id.head.id, by simp [Edits.applyHead, Edits.spelling?, hspelled]⟩

/-- The nodes at which a recogniser may look for getters: the one in question, and those under which
bindings are declared. -/
inductive Context.Sees (c : Context) (n : Node) : Node → Prop
  | here : c.Sees n n
  | declared {id : BindingId} {b : Binding} {site : Site} : c.store.bindings[id]? = some b →
      site ∈ b.declarations → c.Sees n (c.edits.apply site.parent)

/-- A name that a registry has issued, or issues to a role. -/
def Knows (now : Registry) (name : String) : Prop :=
  now.Owns name ∨ ∃ role, name = now.nameFor role

/-- What is asked for on a match: names that are issued by then, or the name that the only binding
has already. -/
def Grounded (c : Context) (now : Registry) (found : Option (List Request)) : Prop :=
  ∀ requests, found = some requests → (∀ request ∈ requests, Knows now request.name) ∨
    ∃ request, requests = [request] ∧ request.InPlace c.store

section Recognisers

variable {r used : Registry} {c : Context} {n : Node} {P : Registry → Prop}

theorem grounded_requests {now : Registry} {wanted : List (Option BindingId × String)}
    (h : ∀ entry ∈ wanted, Knows now entry.2) : Grounded c now (requests wanted) := by
  refine fun found hfound ↦ .inl fun request hrequest ↦ ?_
  obtain ⟨entry, hentry, hname⟩ := exists_of_mem_requests hfound hrequest
  exact hname ▸ h entry hentry

theorem echoes_nothing : Echoes r used P (Grounded c) nothing :=
  .pure fun _ _ _ _ hfound ↦ by simp at hfound

theorem echoes_search (walk : Node.Walk) (p : Node → Bool) :
    Echoes r used P (fun _ _ ↦ True) (search walk p) := by
  unfold search
  split
  · exact .pure fun _ _ _ ↦ trivial
  · cases walk.fault with
    | none => exact .pure fun _ _ _ ↦ trivial
    | some fault => exact .throw _

theorem echoes_render (n : Node) : Echoes r used P (fun _ _ ↦ True) (render n) := by
  unfold render
  cases n.render with
  | ok text => exact .pure fun _ _ _ ↦ trivial
  | error fault => exact .throw _

theorem knows_nameFor {now : Registry} (hlater : r.Later now) (role : Role) :
    Knows now (r.nameFor role) :=
  .inr ⟨role, (hlater.nameFor role).symm⟩

theorem echoes_askFor (identifier : Node) (role : Role) :
    Echoes r used P (Grounded c) (askFor c identifier role) := by
  refine (Echoes.nameFor role).bind fun name ↦ .pure fun now hlater hsaid ↦ ?_
  refine grounded_requests fun entry hentry ↦ ?_
  obtain rfl := List.mem_singleton.mp hentry
  exact hsaid.2 ▸ knows_nameFor hlater role

theorem echoes_polyfillAccessor : Echoes r used P (Grounded c) (polyfillAccessor c n) := by
  unfold polyfillAccessor
  split
  case h_2 => exact echoes_nothing
  case h_1 =>
    split
    case h_2 => exact echoes_nothing
    case h_1 =>
      refine (echoes_search _ _).bind fun found ↦ ?_
      cases found with
      | false => exact echoes_nothing
      | true => exact echoes_askFor _ _

theorem echoes_guardedInvoker : Echoes r used P (Grounded c) (guardedInvoker c n) := by
  unfold guardedInvoker
  split
  case h_2 => exact echoes_nothing
  case h_1 =>
    split
    · exact echoes_nothing
    · repeat' split
      case h_1 =>
        refine (echoes_render _).bind fun text ↦ ?_
        split
        · exact echoes_askFor _ _
        · exact echoes_nothing
      all_goals exact echoes_nothing

theorem echoes_wrapper : Echoes r used P (Grounded c) (wrapper c n) := by
  unfold wrapper
  split
  case h_2 => exact echoes_nothing
  case h_1 =>
    split
    case h_2 => exact echoes_nothing
    case h_1 =>
      refine (Echoes.nameFor .atobCall).bind fun callName ↦ ?_
      split
      · refine (Echoes.nameFor .atobWrapper).bind fun first ↦
          (Echoes.nameFor .atobPolyfill).bind fun second ↦
            .pure fun now hlater hsaid ↦ grounded_requests fun entry hentry ↦ ?_
        rcases List.mem_pair.mp hentry with rfl | rfl
        · exact hsaid.1.2 ▸ knows_nameFor hlater .atobWrapper
        · exact hsaid.2 ▸ knows_nameFor hlater .atobPolyfill
      · exact echoes_nothing

theorem echoes_stringGuard : Echoes r used P (Grounded c) (stringGuard c n) := by
  unfold stringGuard
  split
  case h_2 => exact echoes_nothing
  case h_1 =>
    dsimp only
    split
    · exact echoes_nothing
    · split
      case h_2 => exact echoes_nothing
      case h_1 =>
        split
        case h_2 => exact echoes_nothing
        case h_1 =>
          refine (echoes_render _).bind fun text ↦ (echoes_render _).bind fun other ↦ ?_
          split
          · exact echoes_askFor _ _
          · exact echoes_nothing

theorem echoes_chartDecode : Echoes r used P (Grounded c) (chartDecode c n) := by
  unfold chartDecode
  split
  case h_2 => exact echoes_nothing
  case h_1 =>
    split
    case h_2 => exact echoes_nothing
    case h_1 =>
      refine (echoes_search _ _).bind fun found ↦ ?_
      cases found with
      | false => exact echoes_nothing
      | true => exact echoes_askFor _ _

theorem echoes_standardDecode : Echoes r used P (Grounded c) (standardDecode c n) := by
  unfold standardDecode
  repeat' split
  all_goals first
    | exact echoes_nothing
    | exact echoes_askFor _ _

theorem echoes_performanceNow : Echoes r used P (Grounded c) (performanceNow c n) := by
  unfold performanceNow
  split
  case h_2 => exact echoes_nothing
  case h_1 =>
    split
    · exact echoes_nothing
    · split
      case h_2 => exact echoes_nothing
      case h_1 =>
        refine (echoes_render _).bind fun text ↦ ?_
        split
        · exact echoes_askFor _ _
        · exact echoes_nothing

theorem echoes_catchParameter : Echoes r used P (Grounded c) (catchParameter c n) := by
  unfold catchParameter
  split
  case h_2 => exact echoes_nothing
  case h_1 => exact echoes_askFor _ _

theorem echoes_handlerMap :
    Echoes r used (fun _ ↦ True) (Grounded c) (handlerMap c n) := by
  unfold handlerMap
  split
  case h_2 => exact echoes_nothing
  case h_1 map hmap =>
    dsimp only
    split
    · exact echoes_nothing
    · refine (Echoes.mapM (S := fun now (entry : Option BindingId × String) ↦ now.Owns entry.2)
        (fun _ _ _ hlater howns ↦ howns.later hlater) fun property _ ↦ ?_).bind
          fun handlers ↦ ?_
      · exact (Echoes.handlerName _).bind fun name ↦ .pure fun _ _ howns ↦ howns
      split
      · refine (Echoes.nameFor .responseHandlers).bind fun name ↦
          .pure fun now hlater hsaid ↦ grounded_requests fun entry hentry ↦ ?_
        rcases List.mem_append.mp hentry with hhandler | hown
        · exact .inl (hsaid.1 entry hhandler)
        · obtain rfl := List.mem_singleton.mp hown
          exact hsaid.2 ▸ knows_nameFor hlater .responseHandlers
      · refine .pure fun now _ howns ↦ grounded_requests fun entry hentry ↦ .inl ?_
        rw [List.append_nil] at hentry
        exact howns entry hentry

theorem echoes_handlerParameters :
    Echoes r used P (fun _ _ ↦ True) (handlerParameters c n) := by
  have hfound {P : Registry → Prop} (found : Option (List Request)) :
      Echoes r used P (fun _ _ ↦ True) (pure found) := .pure fun _ _ _ ↦ trivial
  unfold handlerParameters
  split
  case h_2 => exact hfound none
  case h_1 =>
    refine Echoes.parameterRoles.bind fun roles ↦ ?_
    split
    case h_2 => exact hfound none
    case h_1 =>
      dsimp only
      split
      · exact hfound none
      · exact hfound _

/-- Two registries agree on a name that the new one has issued if the used one takes it for somebody
else's. -/
theorem isNamedByOther_eq {now now' : Registry} (h : r.Beside used now now') {name : String}
    (hclear : isNamedByOther used name = true → r.Owns name) :
    isNamedByOther now' name = isNamedByOther now name := by
  unfold isNamedByOther
  rw [h.owner]
  cases howner : now.ownerOf? name with
  | some owner => rw [Option.some_or]
  | none =>
    rw [Option.none_or, Option.any_none]
    by_contra hother
    have howns := (hclear (Bool.not_eq_false _ ▸ hother)).later h.later
    rw [Registry.Owns, howner] at howns
    exact absurd howns (by simp)

section Getter

variable (hclear : ∀ m, c.Sees n m → ∀ name argument, getter? m = some (name, argument) →
  isNamedByOther used name = true → r.Owns name)

include hclear

theorem returnedIdentifier?_beside {now now' : Registry} (h : r.Beside used now now') {m : Node}
    (hm : c.Sees n m) : returnedIdentifier? now' m = returnedIdentifier? now m := by
  rw [returnedIdentifier?_eq, returnedIdentifier?_eq]
  cases hgetter : getter? m with
  | none => rfl
  | some found =>
    obtain ⟨name, argument⟩ := found
    simp only [Option.bind_some, isNamedByOther_eq h (hclear m hm name argument hgetter)]

theorem returnedBy?_beside {now now' : Registry} (h : r.Beside used now now') {id : BindingId}
    {b : Binding} (hb : c.store.bindings[id]? = some b) :
    returnedBy? c now' b = returnedBy? c now b := by
  unfold returnedBy?
  cases hsite : b.declarations.head? with
  | none => rfl
  | some site =>
    have hsame := returnedIdentifier?_beside hclear h (.declared hb (List.mem_of_head? hsite))
    simp only [Option.bind_eq_bind, Option.bind_some, hsame]

theorem echoes_finalName {P : Registry → Prop} (unvisited : List BindingId) (id : BindingId) :
    Echoes r used P (fun now found ↦ ∀ name, found = some name → now.Owns name ∨
      ∃ b, c.store.bindings[id]? = some b ∧ b.name = name) (finalName c unvisited id) := by
  rw [finalName]
  split
  case h_2 => exact .pure fun _ _ _ name hname ↦ by simp at hname
  case h_1 b hb =>
    refine Echoes.read (fun now now' _ h ↦ ?_) fun now _ _ ↦ ?_
    · rw [returnedBy?_beside hclear h hb]
    · split
      case h_2 =>
        refine .pure fun _ _ _ name hname ↦ .inr ⟨b, hb, ?_⟩
        exact Option.some.inj hname
      case h_1 argument hargument =>
        have hnext (hfresh : id ∈ unvisited) (returned : BindingId) :=
          echoes_finalName (P := (· = now)) (unvisited.erase id) returned
        split
        · rename_i hfresh
          extract_lets nameAfter
          have hgetter {P : Registry → Prop} (field : Option String) :
              Echoes r used P (fun now found ↦ ∀ name, found = some name → now.Owns name ∨
                ∃ b, c.store.bindings[id]? = some b ∧ b.name = name) (nameAfter field) := by
            cases field with
            | none => exact .pure fun _ _ _ name hname ↦ by simp at hname
            | some field =>
              refine (Echoes.getterName field).bind fun told ↦ .pure fun _ _ howns name hname ↦ ?_
              exact .inl (Option.some.inj hname ▸ howns)
          split
          · rename_i returned _
            exact (hnext hfresh returned).bind fun field ↦ hgetter field
          · refine (Echoes.pure (S := fun _ _ ↦ True) fun _ _ _ ↦ trivial).bind ?_
            exact fun field ↦ hgetter field
        · exact .pure fun _ _ _ name hname ↦ by simp at hname
termination_by unvisited.length
decreasing_by
  have hshorter := List.length_erase_of_mem hfresh
  have hpositive := List.length_pos_of_mem hfresh
  omega

theorem echoes_simpleGetter : Echoes r used P (Grounded c) (simpleGetter c n) := by
  unfold simpleGetter
  split
  case h_2 => exact echoes_nothing
  case h_1 id _ =>
    refine Echoes.read (fun now now' _ h ↦ ?_) fun now _ _ ↦ ?_
    · rw [returnedIdentifier?_beside hclear h .here]
    · split
      · exact echoes_nothing
      · refine (echoes_finalName hclear _ id).bind fun found ↦ ?_
        cases found with
        | none => exact echoes_nothing
        | some name =>
          refine .pure fun now _ hfound requests hrequests ↦ ?_
          obtain rfl := Option.some.inj hrequests
          rcases hfound name rfl with howns | ⟨b, hb, hname⟩
          · exact .inl fun request hrequest ↦ .inl (List.mem_singleton.mp hrequest ▸ howns)
          · refine .inr ⟨⟨id, name⟩, rfl, fun other hother ↦ ?_⟩
            obtain rfl : b = other := Option.some.inj (hb.symm.trans hother)
            exact hname

end Getter

/-- An idiom finds the same with both registries, if the two agree on the names of the functions
that it may take for getters, unless the used one refuses a name. -/
theorem echoes_recognise (idiom : Idiom)
    (hclear : idiom = .simpleGetter → ∀ m, c.Sees n m → ∀ name argument,
      getter? m = some (name, argument) → isNamedByOther used name = true → r.Owns name) :
    Echoes r used (fun _ ↦ True)
      (fun now found ↦ idiom ≠ .handlerParameters → Grounded c now found)
      (idiom.recognise c n) := by
  have hgrounded {answer : Answer} (h : Echoes r used (fun _ ↦ True) (Grounded c) answer) :
      Echoes r used (fun _ ↦ True)
        (fun now found ↦ idiom ≠ .handlerParameters → Grounded c now found) answer :=
    h.weaken (fun _ h ↦ h) fun _ _ h _ ↦ h
  cases idiom with
  | polyfillAccessor => exact hgrounded echoes_polyfillAccessor
  | guardedInvoker => exact hgrounded echoes_guardedInvoker
  | wrapper => exact hgrounded echoes_wrapper
  | stringGuard => exact hgrounded echoes_stringGuard
  | catchParameter => exact hgrounded echoes_catchParameter
  | chartDecode => exact hgrounded echoes_chartDecode
  | standardDecode => exact hgrounded echoes_standardDecode
  | performanceNow => exact hgrounded echoes_performanceNow
  | simpleGetter => exact hgrounded (echoes_simpleGetter (hclear rfl))
  | handlerParameters =>
    exact echoes_handlerParameters.weaken (fun _ h ↦ h) fun _ _ _ h ↦ absurd rfl h
  | handlerMap => exact hgrounded echoes_handlerMap

theorem owns_of_isNamedByOther {name : String} (h : isNamedByOther r name = true) :
    r.Owns name := by
  unfold isNamedByOther at h
  rw [Option.any_eq_true] at h
  obtain ⟨owner, howner, -⟩ := h
  exact Option.isSome_iff_exists.mpr ⟨owner, howner⟩

/-- Whatever an idiom finds, a registry keeps the names that it had. -/
theorem keeps_recognise (idiom : Idiom) : Issuing.Keeps (idiom.recognise c n) := by
  intro now
  have hechoes : Echoes now now (fun _ ↦ True) _ (idiom.recognise c n) :=
    echoes_recognise idiom fun _ _ _ _ _ _ ↦ owns_of_isNamedByOther
  exact hechoes.later now (.refl now) trivial

theorem keeps_finalName (unvisited : List BindingId) (id : BindingId) :
    Issuing.Keeps (finalName c unvisited id) := by
  intro now
  have hechoes : Echoes now now (fun _ ↦ True) _ (finalName c unvisited id) :=
    echoes_finalName (n := default) (fun _ _ _ _ _ ↦ owns_of_isNamedByOther) unvisited id
  exact hechoes.later now (.refl now) trivial

end Recognisers

end Recognition

end Relabel
