import Relabel.Proofs.Idiom.Echo
import Relabel.Proofs.Naming.Refusal

/-!
# What is asked for

A request is about the binding of an identifier. Apart from getters and the parameters of handlers,
the name that it gives is a role's name or the name of a handler: it does not depend on the names
that the program has, except for the keys of a map of handlers.
-/

namespace Relabel

/-- The names that a registry makes up from its own words and the keys of handler maps. -/
def Registry.Coins (r : Registry) (name : String) : Prop :=
  (∃ role, name = r.nameFor role) ∨ ∃ key, name = r.handlerName key

namespace Issuing

/-- A computation that keeps the names of a registry meets every specification that says nothing. -/
theorem Keeps.meets {α : Type} {x : Issuing α} (h : Keeps x) (r : Registry) :
    Meets r (fun _ ↦ True) (fun _ _ ↦ True) x := by
  refine fun now hnow ↦ ⟨hnow.trans (h now), ?_⟩
  split <;> trivial

theorem Meets.imp {α : Type} {r : Registry} {R S : α → Prop} {Q : Registry → Fault → Prop}
    {x : Issuing α} (h : Meets r R Q x) (hRS : ∀ a, R a → S a) : Meets r S Q x := by
  refine fun now hnow ↦ ⟨(h now hnow).1, ?_⟩
  have hresult := (h now hnow).2
  split at hresult
  · exact hRS _ hresult
  · exact hresult

end Issuing

namespace Recognition

open Issuing (Meets)

/-- A match that asks for bindings of identifiers, by names with a property. -/
def Wanted (c : Context) (P : String → Prop) (found : Option (List Request)) : Prop :=
  ∀ requests, found = some requests → ∀ request ∈ requests,
    (∃ n, c.store.bindingOf? n = some request.binding) ∧ P request.name

/-- A recogniser that asks for bindings of identifiers only, by names with a property. -/
def Wants (r : Registry) (c : Context) (P : String → Prop) (answer : Answer) : Prop :=
  Meets r (Wanted c P) (fun _ _ ↦ True) answer

section Recognisers

variable {r : Registry} {c : Context} {n : Node} {P : String → Prop}

theorem wants_nothing : Wants r c P nothing :=
  .pure fun _ hfound ↦ by simp at hfound

theorem meets_of_search (walk : Node.Walk) (p : Node → Bool) :
    Meets r (fun _ ↦ True) (fun _ _ ↦ True) (search walk p) := by
  unfold search
  split
  · exact .pure trivial
  · split
    · exact .throw fun _ ↦ trivial
    · exact .pure trivial

theorem meets_of_render (m : Node) :
    Meets r (fun _ ↦ True) (fun _ _ ↦ True) (render m) := by
  unfold render
  split
  · exact .pure trivial
  · exact .throw fun _ ↦ trivial

theorem wanted_requests {wanted : List (Option BindingId × String)}
    (h : ∀ entry ∈ wanted, (∀ id, entry.1 = some id → ∃ n, c.store.bindingOf? n = some id) ∧
      P entry.2) : Wanted c P (requests wanted) := by
  intro found hfound request hrequest
  unfold requests at hfound
  split at hfound
  · simp at hfound
  · obtain rfl := Option.some.inj hfound
    obtain ⟨⟨id, name⟩, hentry, hmade⟩ := List.mem_filterMap.mp hrequest
    obtain ⟨id, rfl, rfl⟩ := Option.map_eq_some_iff.mp hmade
    exact ⟨(h _ hentry).1 id rfl, (h _ hentry).2⟩

theorem wants_askFor (identifier : Node) (role : Role) :
    Wants r c r.Coins (askFor c identifier role) := by
  refine Meets.bind (.nameFor role) fun name hname ↦ .pure (wanted_requests fun entry hentry ↦ ?_)
  obtain rfl := List.mem_singleton.mp hentry
  exact ⟨fun id hid ↦ ⟨identifier, hid⟩, .inl ⟨role, hname⟩⟩

theorem wants_polyfillAccessor : Wants r c r.Coins (polyfillAccessor c n) := by
  unfold polyfillAccessor
  split
  case h_2 => exact wants_nothing
  case h_1 =>
    split
    case h_2 => exact wants_nothing
    case h_1 =>
      refine (meets_of_search _ _).bind fun found _ ↦ ?_
      cases found with
      | false => exact wants_nothing
      | true => exact wants_askFor _ _

theorem wants_guardedInvoker : Wants r c r.Coins (guardedInvoker c n) := by
  unfold guardedInvoker
  repeat' split
  all_goals first
    | exact wants_nothing
    | refine (meets_of_render _).bind fun text _ ↦ ?_
      split
      · exact wants_askFor _ _
      · exact wants_nothing

theorem wants_wrapper : Wants r c r.Coins (wrapper c n) := by
  unfold wrapper
  split
  case h_2 => exact wants_nothing
  case h_1 choice _ =>
    split
    case h_2 => exact wants_nothing
    case h_1 polyfill _ =>
      refine Meets.bind (.nameFor .atobCall) fun callName _ ↦ ?_
      split
      · refine Meets.bind (.nameFor .atobWrapper) fun first hfirst ↦
          Meets.bind (.nameFor .atobPolyfill) fun second hsecond ↦
            .pure (wanted_requests fun entry hentry ↦ ?_)
        rcases List.mem_pair.mp hentry with rfl | rfl
        · exact ⟨fun id hid ↦ ⟨choice.id, hid⟩, .inl ⟨_, hfirst⟩⟩
        · exact ⟨fun id hid ↦ ⟨polyfill, hid⟩, .inl ⟨_, hsecond⟩⟩
      · exact wants_nothing

theorem wants_stringGuard : Wants r c r.Coins (stringGuard c n) := by
  unfold stringGuard
  split
  case h_2 => exact wants_nothing
  case h_1 =>
    dsimp only
    repeat' split
    all_goals first
      | exact wants_nothing
      | refine (meets_of_render _).bind fun text _ ↦ (meets_of_render _).bind fun other _ ↦ ?_
        split
        · exact wants_askFor _ _
        · exact wants_nothing

theorem wants_chartDecode : Wants r c r.Coins (chartDecode c n) := by
  unfold chartDecode
  split
  case h_2 => exact wants_nothing
  case h_1 =>
    split
    case h_2 => exact wants_nothing
    case h_1 =>
      refine (meets_of_search _ _).bind fun found _ ↦ ?_
      cases found with
      | false => exact wants_nothing
      | true => exact wants_askFor _ _

theorem wants_standardDecode : Wants r c r.Coins (standardDecode c n) := by
  unfold standardDecode
  repeat' split
  all_goals first
    | exact wants_nothing
    | exact wants_askFor _ _

theorem wants_performanceNow : Wants r c r.Coins (performanceNow c n) := by
  unfold performanceNow
  split
  case h_2 => exact wants_nothing
  case h_1 =>
    split
    · exact wants_nothing
    · split
      case h_2 => exact wants_nothing
      case h_1 =>
        refine (meets_of_render _).bind fun text _ ↦ ?_
        split
        · exact wants_askFor _ _
        · exact wants_nothing

theorem wants_catchParameter : Wants r c r.Coins (catchParameter c n) := by
  unfold catchParameter
  split
  case h_2 => exact wants_nothing
  case h_1 => exact wants_askFor _ _

theorem wants_handlerMap : Wants r c r.Coins (handlerMap c n) := by
  unfold handlerMap
  split
  case h_2 => exact wants_nothing
  case h_1 map _ =>
    dsimp only
    split
    · exact wants_nothing
    · refine Meets.bind (R := fun handlers : List (Option BindingId × String) ↦
        ∀ entry ∈ handlers, (∀ id, entry.1 = some id → ∃ n, c.store.bindingOf? n = some id) ∧
          r.Coins entry.2) (.mapM fun property _ ↦ ?_) fun handlers hhandlers ↦ ?_
      · obtain ⟨key, value⟩ := property
        refine Meets.bind (.handlerName (fun _ _ _ _ ↦ trivial) _) fun name hname ↦ .pure ?_
        exact ⟨fun id hid ↦ ⟨value, hid⟩, .inr ⟨_, hname⟩⟩
      split
      · rename_i id _
        refine Meets.bind (.nameFor .responseHandlers) fun name hname ↦
          .pure (wanted_requests fun entry hentry ↦ ?_)
        rcases List.mem_append.mp hentry with hhandler | hown
        · exact hhandlers entry hhandler
        · obtain rfl := List.mem_singleton.mp hown
          exact ⟨fun binding hbinding ↦ ⟨id, hbinding⟩, .inl ⟨_, hname⟩⟩
      · refine .pure (wanted_requests fun entry hentry ↦ ?_)
        rw [List.append_nil] at hentry
        exact hhandlers entry hentry

theorem wants_handlerParameters : Wants r c (fun _ ↦ True) (handlerParameters c n) := by
  unfold handlerParameters
  split
  case h_2 => exact wants_nothing
  case h_1 =>
    refine (Issuing.Keeps.parameterRoles.meets r).bind fun roles _ ↦ ?_
    split
    case h_2 => exact wants_nothing
    case h_1 =>
      dsimp only
      split
      · exact wants_nothing
      · refine .pure (wanted_requests fun entry hentry ↦ ⟨fun id hid ↦ ?_, trivial⟩)
        obtain ⟨param, -, hparam⟩ := List.mem_map.mp (List.of_mem_zip hentry).1
        obtain ⟨m, -, hm⟩ := Option.bind_eq_some_iff.mp (hparam.trans hid)
        exact ⟨m, hm⟩

theorem wants_simpleGetter : Wants r c (fun _ ↦ True) (simpleGetter c n) := by
  unfold simpleGetter
  split
  case h_2 => exact wants_nothing
  case h_1 id hid =>
    refine Meets.registry.bind fun now _ ↦ ?_
    split
    · exact wants_nothing
    · refine (Issuing.Keeps.meets (keeps_finalName _ id) r).bind fun found _ ↦ ?_
      cases found with
      | none => exact wants_nothing
      | some name =>
        refine .pure (wanted_requests fun entry hentry ↦ ?_)
        obtain rfl := List.mem_singleton.mp hentry
        obtain ⟨m, -, hm⟩ := Option.bind_eq_some_iff.mp hid
        exact ⟨fun _ hsame ↦ ⟨m, hm.trans hsame⟩, trivial⟩

/-- Whatever an idiom asks for is a name of a binding that an identifier belongs to. -/
theorem wants_recognise (idiom : Idiom) :
    Wants r c (fun name ↦ idiom ≠ .simpleGetter → idiom ≠ .handlerParameters → r.Coins name)
      (idiom.recognise c n) := by
  have hcoins {answer : Answer} (h : Wants r c r.Coins answer) :
      Wants r c (fun name ↦ idiom ≠ .simpleGetter → idiom ≠ .handlerParameters → r.Coins name)
        answer :=
    h.imp fun found hfound requests hrequests request hrequest ↦
      (hfound requests hrequests request hrequest).imp_right fun hname _ _ ↦ hname
  cases idiom with
  | polyfillAccessor => exact hcoins wants_polyfillAccessor
  | guardedInvoker => exact hcoins wants_guardedInvoker
  | wrapper => exact hcoins wants_wrapper
  | stringGuard => exact hcoins wants_stringGuard
  | catchParameter => exact hcoins wants_catchParameter
  | chartDecode => exact hcoins wants_chartDecode
  | standardDecode => exact hcoins wants_standardDecode
  | performanceNow => exact hcoins wants_performanceNow
  | simpleGetter =>
    exact wants_simpleGetter.imp fun found hfound requests hrequests request hrequest ↦
      (hfound requests hrequests request hrequest).imp_right fun _ hother ↦ absurd rfl hother
  | handlerParameters =>
    exact wants_handlerParameters.imp fun found hfound requests hrequests request hrequest ↦
      (hfound requests hrequests request hrequest).imp_right fun _ _ hother ↦ absurd rfl hother
  | handlerMap => exact hcoins wants_handlerMap

end Recognisers

end Recognition

end Relabel
