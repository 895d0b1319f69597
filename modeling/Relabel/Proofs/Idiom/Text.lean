import Relabel.Proofs.Idiom.Answer
import Relabel.Proofs.Idiom.Blind
import Relabel.Proofs.Idiom.Wanted
import Relabel.Proofs.Labeling.Frame

/-!
# Idioms that look at text

Two idioms compare the printed form of a part of a program with a fixed text. Neither text has a
name in it that a registry makes up. As a printed form shows the names of all identifiers, a part
that has such a text after renames holds no identifier that was renamed, and has had the text from
the start. So these idioms find nothing after renames that they did not find before.
-/

namespace Relabel

/-- The printed form of every node that has one shows the names of the identifiers in it. -/
def Node.PrintsNames (tree : Node) : Prop :=
  ∀ n ∈ tree.nodes, ∀ text, n.render = .ok text →
    ∀ m ∈ n.nodes, m.isIdentifier = true → ∀ name ∈ m.head.name, name.toList <:+: text.toList

instance (tree : Node) : Decidable tree.PrintsNames :=
  decidable_of_iff (∀ n ∈ tree.nodes, ∀ text ∈ n.render.toOption,
      ∀ m ∈ n.nodes, m.isIdentifier = true → ∀ name ∈ m.head.name, name.toList <:+: text.toList) (by
    simp only [Node.PrintsNames, Option.mem_def, toOption_eq_some_iff])

namespace Recognition

/-- What an idiom compares: a name is asked for an identifier if the printed form of a node is a
given text. -/
structure Comparison where
  id : Node
  shown : Node
  text : String
  role : Role

namespace Comparison

def answer (x : Comparison) (c : Context) : Answer := do
  if (← render x.shown) == x.text then askFor c x.id x.role else nothing

/-- A comparison as edits leave it. -/
def edited (e : Edits) (x : Comparison) : Comparison :=
  { x with id := e.apply x.id, shown := e.apply x.shown }

/-- A comparison issues no name. -/
theorem run_answer (x : Comparison) (c : Context) (registry : Registry) :
    (x.answer c).run registry = match x.shown.render with
      | .ok text => (.ok (if text = x.text then
          requests [(c.store.bindingOf? x.id, registry.nameFor x.role)] else none), registry)
      | .error reason => (.error (.printing reason), registry) := by
  unfold answer render
  cases x.shown.render with
  | error reason => rfl
  | ok text =>
    show (if (text == x.text) = true then askFor c x.id x.role else nothing : Answer).run registry = _
    by_cases htext : text = x.text
    · simp only [if_pos (beq_iff_eq.mpr htext), if_pos htext]
      rfl
    · simp only [if_neg (mt beq_iff_eq.mp htext), if_neg htext]
      rfl

end Comparison

/-- The comparison for an invoker of the guarded decoder. -/
def invoked? (n : Node) : Option Comparison :=
  match n.items .declarations with
  | [some declarator] => do
    guard (n.head.variety = some "var")
    let init ← ofKind? declarator .init .callExpression
    let id ← identifier? declarator .id
    let callee ← ofKind? init .callee .functionExpression
    let only ← guardedStatement? callee
    return ⟨id, only, guardedReturn, .atobCall⟩
  | _ => none

/-- The comparison for a timer. -/
def timed? (n : Node) : Option Comparison := do
  let id ← identifier? n .id
  guard n.params.isEmpty
  let argument ← n.soleReturn?
  return ⟨id, argument, timerExpression, .performanceNow⟩

theorem guardedInvoker_eq (c : Context) (n : Node) :
    guardedInvoker c n = match invoked? n with
      | some x => x.answer c
      | none => nothing := by
  unfold guardedInvoker invoked?
  rcases n.items .declarations with _ | ⟨_ | declarator, _ | ⟨_, _⟩⟩
  case cons.some.nil =>
    by_cases hvariety : n.head.variety = some "var"
    · simp only [hvariety, guard]
      cases ofKind? declarator .init .callExpression with
      | none => rfl
      | some init =>
        cases identifier? declarator .id with
        | none => rfl
        | some id =>
          cases hcallee : ofKind? init .callee .functionExpression with
          | none => simp [hcallee]
          | some callee =>
            cases hstatement : guardedStatement? callee with
            | none => simp [hcallee, hstatement]
            | some only => simp [hcallee, hstatement, Comparison.answer]
    · simp [hvariety, guard, failure]
  all_goals rfl

theorem performanceNow_eq (c : Context) (n : Node) :
    performanceNow c n = match timed? n with
      | some x => x.answer c
      | none => nothing := by
  unfold performanceNow timed?
  cases identifier? n .id with
  | none => rfl
  | some id =>
    by_cases hparams : n.params.isEmpty = true
    · cases n.soleReturn? with
      | none => simp [hparams, guard]
      | some argument => simp [hparams, guard, Comparison.answer]
    · simp [hparams, guard, failure]

theorem guardedStatement?_apply (e : Edits) (callee : Node) :
    guardedStatement? (e.apply callee) = (guardedStatement? callee).map e.apply := by
  unfold guardedStatement?
  rw [Edits.child?_apply e callee (by decide), Edits.statements_apply, List.head?_map,
    Edits.params_apply]
  simp only [Option.isNone_map, List.isEmpty_map]
  cases (guard ((callee.child? .id).isNone && callee.params.isEmpty) : Option Unit) with
  | none => rfl
  | some _ =>
    rcases callee.statements.head? with _ | _ | first
    · rfl
    · rfl
    · simp only [Option.map_some, Option.join_some, Option.bind_eq_bind, Option.bind_some,
        Edits.hasKind_apply, Edits.child?_apply e first (by decide : Field.block ≠ .key)]
      cases (guard (first.hasKind .tryStatement) : Option Unit) with
      | none => rfl
      | some _ =>
        cases first.child? .block with
        | none => rfl
        | some block =>
          simp only [Option.map_some, Option.bind_some,
            Edits.items_apply e block (by decide : Field.body ≠ .key)]
          rcases block.items .body with _ | ⟨_ | only, _ | ⟨_, _⟩⟩ <;> rfl

theorem invoked?_apply (e : Edits) (n : Node) :
    invoked? (e.apply n) = (invoked? n).map (Comparison.edited e) := by
  have hguard : (guard ((e.apply n).head.variety = some "var") : Option Unit) =
      guard (n.head.variety = some "var") := by
    rw [Edits.head_apply]
    rfl
  unfold invoked?
  rw [Edits.items_apply e n (by decide), hguard]
  rcases n.items .declarations with _ | ⟨_ | declarator, _ | ⟨_, _⟩⟩
  case cons.some.nil =>
    simp only [List.map_cons, List.map_nil, Option.map_some,
      ofKind?_apply e declarator (by decide : Field.init ≠ .key),
      identifier?_apply e declarator (by decide : Field.id ≠ .key)]
    cases (guard (n.head.variety = some "var") : Option Unit) with
    | none => rfl
    | some _ =>
      cases ofKind? declarator .init .callExpression with
      | none => rfl
      | some init =>
        cases identifier? declarator .id with
        | none => rfl
        | some id =>
          simp only [Option.map_some, Option.bind_eq_bind, Option.bind_some,
            ofKind?_apply e init (by decide : Field.callee ≠ .key)]
          cases ofKind? init .callee .functionExpression with
          | none => rfl
          | some callee =>
            simp only [Option.map_some, Option.bind_some, guardedStatement?_apply]
            cases guardedStatement? callee <;> rfl
  all_goals rfl

theorem timed?_apply (e : Edits) (n : Node) :
    timed? (e.apply n) = (timed? n).map (Comparison.edited e) := by
  unfold timed?
  rw [identifier?_apply e n (by decide), Edits.soleReturn?_apply,
    Edits.params_apply, List.isEmpty_map]
  cases identifier? n .id with
  | none => rfl
  | some id =>
    cases (guard (n.params.isEmpty = true) : Option Unit) with
    | none => rfl
    | some _ => cases n.soleReturn? <;> rfl

section Members

variable {tree n : Node}

/-- What is compared stands in the program. -/
theorem shown_of_invoked? (hn : n ∈ tree.nodes) {x : Comparison} (h : invoked? n = some x) :
    x.shown ∈ tree.nodes ∧ x.text = guardedReturn := by
  unfold invoked? at h
  split at h
  · rename_i declarator hitems
    simp only [Option.bind_eq_bind, Option.bind_eq_some_iff] at h
    obtain ⟨_, -, init, hinit, id, -, callee, hcallee, only, honly, hmade⟩ := h
    obtain rfl := Option.some.inj hmade
    have hdeclarator : declarator ∈ tree.nodes := Node.mem_nodes_of_mem_branches hn
      (Node.mem_items_iff.mp (hitems ▸ List.mem_singleton_self _))
    have hinitShown := shows_ofKind? (Edits.shows_empty_iff.mpr hdeclarator) (by decide) hinit
    have honlyShown := shows_guardedStatement? (shows_ofKind? hinitShown (by decide) hcallee) honly
    exact ⟨Edits.shows_empty_iff.mp honlyShown, rfl⟩
  · simp at h

theorem shown_of_timed? (hn : n ∈ tree.nodes) {x : Comparison} (h : timed? n = some x) :
    x.shown ∈ tree.nodes ∧ x.text = timerExpression := by
  unfold timed? at h
  simp only [Option.bind_eq_bind, Option.bind_eq_some_iff] at h
  obtain ⟨id, -, _, -, argument, hargument, hmade⟩ := h
  obtain rfl := Option.some.inj hmade
  have hshows := (Edits.shows_empty_iff.mpr hn).soleReturn? hargument
  exact ⟨Edits.shows_empty_iff.mp hshows, rfl⟩

end Members

end Recognition

namespace Idiom

open Recognition

/-- The idioms that look at text. -/
def textBased : List Idiom :=
  [guardedInvoker, performanceNow]

/-- What such an idiom compares at a node. -/
def comparison? : Idiom → Node → Option Comparison
  | guardedInvoker, n => invoked? n
  | performanceNow, n => timed? n
  | _, _ => none

theorem recognise_of_textBased {idiom : Idiom} (h : idiom ∈ textBased) (c : Context) (n : Node) :
    idiom.recognise c n = match idiom.comparison? n with
      | some x => x.answer c
      | none => nothing := by
  rcases List.mem_pair.mp h with rfl | rfl
  · exact guardedInvoker_eq c n
  · exact performanceNow_eq c n

theorem comparison?_apply (idiom : Idiom) (e : Edits) (n : Node) :
    idiom.comparison? (e.apply n) = (idiom.comparison? n).map (Comparison.edited e) := by
  cases idiom with
  | guardedInvoker => exact invoked?_apply e n
  | performanceNow => exact timed?_apply e n
  | _ => rfl

theorem shown_of_comparison? {idiom : Idiom} {tree n : Node} (hn : n ∈ tree.nodes) {x : Comparison}
    (h : idiom.comparison? n = some x) :
    x.shown ∈ tree.nodes ∧ x.text ∈ [guardedReturn, timerExpression] := by
  cases idiom with
  | guardedInvoker =>
    obtain ⟨hmem, htext⟩ := shown_of_invoked? hn h
    exact ⟨hmem, by simp [htext]⟩
  | performanceNow =>
    obtain ⟨hmem, htext⟩ := shown_of_timed? hn h
    exact ⟨hmem, by simp [htext]⟩
  | _ => simp [comparison?] at h

end Idiom

/-! ## Texts after renames -/

namespace Registry

/-- Neither text shows a name that a registry with the default descriptors makes up. -/
theorem Coins.not_isInfix {r : Registry} (hr : r.descriptors = Role.defaultDescriptor)
    {name text : String} (h : r.Coins name)
    (htext : text ∈ [Recognition.guardedReturn, Recognition.timerExpression]) :
    ¬ name.toList <:+: text.toList := by
  have hwords : ∀ word ∈ "Handler" :: Role.all.map Role.defaultDescriptor,
      ∀ text ∈ [Recognition.guardedReturn, Recognition.timerExpression],
        ¬ word.toList <:+: text.toList := by
    decide +kernel
  obtain ⟨word, hword, hsuffix⟩ : ∃ word ∈ "Handler" :: Role.all.map Role.defaultDescriptor,
      word.toList <:+ name.toList := by
    rcases h with ⟨role, rfl⟩ | ⟨key, rfl⟩
    · have hrole : role ∈ Role.all := by cases role <;> decide
      refine ⟨_, List.mem_cons_of_mem _ (List.mem_map_of_mem hrole), ?_⟩
      rw [nameFor, hr]
      split
      · rw [String.toList_append]
        exact List.suffix_append _ _
      · exact List.suffix_refl _
    · refine ⟨_, List.mem_cons_self, ?_⟩
      rw [handlerName, String.toList_append]
      exact List.suffix_append _ _
  exact fun hinfix ↦ hwords word hword text htext (hsuffix.isInfix.trans hinfix)

end Registry

namespace Recognition.Context

/-- A context of an analysed program and one after more renames. -/
structure Precedes (s : Store) (c c' : Context) : Prop where
  grants : ∃ requests, s.Grants requests c.store c.edits
  grants' : ∃ requests, s.Grants requests c'.store c'.edits
  respelled : ∀ x, (c.edits.spellings.get? x).isSome = true →
    (c'.edits.spellings.get? x).isSome = true

/-- New spellings are made up by a registry, and printed forms show them. -/
structure ShowsCoins (tree : Node) (r : Registry) (c : Context) : Prop where
  coins : ∀ x text, c.edits.spellings.get? x = some text → r.Coins text
  prints : (c.edits.apply tree).PrintsNames

/-- A fault in the printing of a node. -/
def Unprinted (tree : Node) (c : Context) (fault : Fault) : Prop :=
  ∃ n ∈ tree.nodes, ∃ reason, (c.edits.apply n).render = .error reason ∧ fault = .printing reason

/-- What an idiom finds is lost after more renames: it finds nothing, or what it has to look at cannot
be printed. It issues the same names. -/
inductive Loses (tree : Node) (c : Context)
    (result result' : Except Fault (Option (List Request)) × Registry) : Prop
  | nothing (eq : result' = (.ok none, result.2))
  | unprinted (fault : Fault) (unprinted : c.Unprinted tree fault)
      (eq : result' = (.error fault, result.2))

section Later

variable {tree n : Node} {s : Store} {c c' : Context} {r : Registry}
  (hs : Store.analyze tree = .ok s) (hformed : tree.WellFormed) (hunshared : tree.Unshared)
  (hkeys : tree.KeysApart) (hr : r.descriptors = Role.defaultDescriptor)
  (h : c.Precedes s c') (hshows : c'.ShowsCoins tree r)

include hs hformed hunshared hkeys hr h hshows

/-- What has one of the two texts after renames has had it before. -/
theorem Precedes.render_eq (hn : n ∈ tree.nodes) {text : String}
    (htext : text ∈ [guardedReturn, timerExpression])
    (hrender : (c'.edits.apply n).render = .ok text) : (c.edits.apply n).render = .ok text := by
  obtain ⟨requests, hgrants⟩ := h.grants
  obtain ⟨requests', hgrants'⟩ := h.grants'
  have hcovers := Store.covers_of_analyze hs hformed hunshared
  have hkept := (hgrants.renamed hs hunshared hkeys).keepsKey
  have hkept' := (hgrants'.renamed hs hunshared hkeys).keepsKey
  have hbelow {m : Node} (hm : m ∈ n.nodes) : m ∈ tree.nodes := Node.mem_nodes_trans hn hm
  have hplain' : ∀ m ∈ n.nodes, c'.edits.spellings.get? m.id = none := by
    intro m hm
    rw [Option.eq_none_iff_forall_ne_some]
    intro name hname
    have hidentifier : m.isIdentifier = true := by
      by_contra hother
      have hnew := hgrants'.newName?_eq hcovers hunshared (hbelow hm)
      rw [hname, Store.newName?, Store.bindingOf?, if_neg hother] at hnew
      simp at hnew
    have hshown : c'.edits.apply m ∈ (c'.edits.apply n).nodes := by
      rw [Edits.nodes_apply fun m hm ↦ hkept' m (hbelow hm)]
      exact List.mem_map_of_mem hm
    have hpart : c'.edits.apply n ∈ (c'.edits.apply tree).nodes := by
      rw [Edits.nodes_apply hkept']
      exact List.mem_map_of_mem hn
    have hspelled : (c'.edits.apply m).head.name = some name := by
      rw [Edits.head_apply]
      exact congrArg (·.or m.head.name) hname
    exact (hshows.coins _ _ hname).not_isInfix hr htext
      (hshows.prints _ hpart text hrender _ hshown (by simpa using hidentifier) name hspelled)
  have hplain : ∀ m ∈ n.nodes, c.edits.spellings.get? m.id = none := by
    intro m hm
    rw [← Option.not_isSome_iff_eq_none]
    intro hsome
    have hlater := h.respelled m.id hsome
    rw [hplain' m hm] at hlater
    exact absurd hlater (by simp)
  rw [hgrants'.apply_eq_self hcovers hunshared hn (fun m hm ↦ hkept' m (hbelow hm)) hplain']
    at hrender
  rwa [hgrants.apply_eq_self hcovers hunshared hn (fun m hm ↦ hkept m (hbelow hm)) hplain]

/-- An idiom that looks at text finds nothing new after more renames. -/
theorem Precedes.recognise_eq_or_loses (hn : n ∈ tree.nodes) {idiom : Idiom}
    (hidiom : idiom ∈ Idiom.textBased) (registry : Registry) :
    (idiom.recognise c' (c'.edits.apply n)).run registry =
        (idiom.recognise c (c.edits.apply n)).run registry ∨
      Loses tree c' ((idiom.recognise c (c.edits.apply n)).run registry)
        ((idiom.recognise c' (c'.edits.apply n)).run registry) := by
  rw [Idiom.recognise_of_textBased hidiom, Idiom.recognise_of_textBased hidiom,
    Idiom.comparison?_apply, Idiom.comparison?_apply]
  cases hx : idiom.comparison? n with
  | none => exact .inl rfl
  | some x =>
    obtain ⟨hmem, htext⟩ := Idiom.shown_of_comparison? hn hx
    have hissued : (((x.edited c.edits).answer c).run registry).2 = registry := by
      rw [Comparison.run_answer]
      split <;> rfl
    have hbinding : c'.store.bindingOf? (c'.edits.apply x.id) =
        c.store.bindingOf? (c.edits.apply x.id) := by
      obtain ⟨_, hgrants⟩ := h.grants
      obtain ⟨_, hgrants'⟩ := h.grants'
      rw [(hgrants.renamed hs hunshared hkeys).bindingOf?_apply,
        (hgrants'.renamed hs hunshared hkeys).bindingOf?_apply]
    simp only [Option.map_some]
    cases hrender : (c'.edits.apply x.shown).render with
    | error reason =>
      refine .inr (.unprinted _ ⟨x.shown, hmem, reason, hrender, rfl⟩ ?_)
      rw [hissued, Comparison.run_answer]
      simp only [Comparison.edited, hrender]
    | ok text =>
      by_cases hsame : text = x.text
      · subst hsame
        have hbefore := h.render_eq hs hformed hunshared hkeys hr hshows hmem htext hrender
        refine .inl ?_
        rw [Comparison.run_answer, Comparison.run_answer]
        simp only [Comparison.edited, hrender, hbefore, hbinding]
      · refine .inr (.nothing ?_)
        rw [hissued, Comparison.run_answer]
        simp only [Comparison.edited, hrender, hsame, if_false]

end Later

end Recognition.Context

end Relabel
