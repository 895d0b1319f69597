import Relabel.Proofs.Idiom.Echo
import Relabel.Proofs.Labeling.Outcome

/-!
# Labelling with a registry that was used before

A registry remembers the names of all programs that it was used for. A program is labelled with it
as with a new one, if the two agree on which functions have been named by other idioms, until a
name is asked for that belongs to somebody else since an earlier program. Both can only come about
through names that the new registry has not issued.
-/

namespace Relabel

open Issuing (Echo Echoes)

namespace Labeling

variable (l : Labeling)

theorem ask_eq (registry : Registry) (n : Node) (idiom : Idiom) :
    ({ l with registry } : Labeling).ask n idiom =
      (((idiom.recognise l.context (l.engine.edits.apply n)).run registry).1,
        { l with registry :=
          ((idiom.recognise l.context (l.engine.edits.apply n)).run registry).2 }) :=
  rfl

theorem later_ask (n : Node) (idiom : Idiom) : l.registry.Later (l.ask n idiom).2.registry :=
  Recognition.keeps_recognise idiom l.registry

theorem later_step (n : Node) (idiom : Idiom) :
    l.registry.Later (l.visit n [idiom]).1.registry := by
  have hasked := l.later_ask n idiom
  unfold visit
  rcases hask : l.ask n idiom with ⟨fault | _ | requests, next⟩ <;> rwa [hask] at hasked

theorem later_walks (r : Registry) (table : Table Kind (List Idiom)) :
    Invariant (fun l ↦ r.Later l.registry) (fun _ _ ↦ True) (fun _ ↦ True) table :=
  .of_step (fun l n idiom h ↦ h.trans (l.later_step n idiom)) table

theorem later_visit (n : Node) (idioms : List Idiom) :
    l.registry.Later (l.visit n idioms).1.registry := by
  have hvisited : Ends (fun next ↦ l.registry.Later next.registry) (fun _ _ ↦ True)
      (l.visit n idioms) :=
    .visit (fun next idiom _ h ↦ ⟨h.trans (next.later_step n idiom), fun _ _ ↦ trivial⟩) (.refl _)
  exact hvisited.1

theorem later_sweep (table : Table Kind (List Idiom)) (stack : List (Node × Option Node)) :
    l.registry.Later (l.sweep table stack).1.registry :=
  ((later_walks l.registry table).sweep (.refl _) fun _ _ ↦ trivial).1

/-- A run keeps the names that its registry has issued, however it ends. -/
theorem later_runPasses (tree : Node) (passes : List Pass) :
    l.registry.Later (l.runPasses tree passes).1.registry := by
  have hthroughout : Throughout (fun next ↦ l.registry.Later next.registry) (fun _ _ ↦ True)
      (fun _ ↦ True) passes :=
    { walks := fun pass _ ↦ later_walks l.registry pass.table
      note := fun _ _ _ h ↦ h
      finish := fun _ _ h ↦ h }
  have hends : Ends _ _ (l.runPasses tree passes) := hthroughout.runPasses trivial (.refl _)
  exact hends.1

end Labeling

/-! ## Two runs beside each other -/

/-- A function that looks like a getter has a name that a used registry takes for somebody else's,
and that the new one has not issued. -/
def Recognition.Mistaken (used now : Registry) (n : Node) : Prop :=
  ∃ found ∈ getter? n, isNamedByOther used found.1 = true ∧ now.ownerOf? found.1 = none

instance (used now : Registry) (n : Node) : Decidable (Recognition.Mistaken used now n) :=
  inferInstanceAs (Decidable (∃ found ∈ Recognition.getter? n,
    Recognition.isNamedByOther used found.1 = true ∧ now.ownerOf? found.1 = none))

namespace Labeling

/-- What holds of a run, and of the registry that a run in the same state with a used registry has
by then. All names that edits give have been issued, before parameters are named. -/
structure Twin (r used : Registry) (tree : Node) (pass : Pass) (l : Labeling)
    (registry : Registry) : Prop where
  beside : r.Beside used l.registry registry
  declared : ∀ (id : BindingId) (b : Binding), l.engine.store.bindings[id]? = some b →
    ∀ site ∈ b.declarations, site.parent ∈ tree.nodes
  issued : .handlerParameters ∉ pass.idioms → ∀ x text,
    l.engine.edits.spellings.get? x = some text → l.registry.Owns text

/-- The run with the used registry is refused a name over what the registry remembers, or it is in
the same state as the run with the new one and ends in the same way. -/
inductive Follows (r used : Registry) (T : Labeling → Registry → Prop)
    (run run' : Labeling × Option Fault) : Prop
  | refused (fault : Fault) (failed : run'.2 = some fault)
      (contested : r.Contested used run.1.registry fault)
  | twin (registry : Registry) (same : run' = ({ run.1 with registry }, run.2))
      (twin : T run.1 registry)

section Run

variable {r used : Registry} {tree : Node} {pass : Pass} {l : Labeling} {registry : Registry}

section Follows

variable {T T' : Labeling → Registry → Prop} {run run' : Labeling × Option Fault}

theorem Follows.base {start : Registry} (h : Follows start used T run run')
    (hlater : r.Later start) : Follows r used T run run' := by
  cases h with
  | refused fault hfailed hcontested => exact .refused fault hfailed (hcontested.base hlater)
  | twin registry hsame htwin => exact .twin registry hsame htwin

/-- A run that follows another still does, if it goes on so. -/
theorem Follows.proceed (h : Follows r used T run run')
    (next : Labeling → Labeling × Option Fault)
    (hnext : ∀ l registry, run = (l, none) → T l registry →
      Follows r used T' (next l) (next { l with registry }))
    (hlater : ∀ l : Labeling, l.registry.Later (next l).1.registry)
    (hT : ∀ l registry, T l registry → T' l registry) :
    Follows r used T' (proceed run next) (proceed run' next) := by
  rcases run with ⟨l, fault⟩
  cases h with
  | refused fault' hfailed hcontested =>
    rcases run' with ⟨l', outcome⟩
    obtain rfl : outcome = some fault' := hfailed
    refine .refused fault' rfl ?_
    cases fault with
    | none => exact hcontested.later (hlater l)
    | some fault => exact hcontested
  | twin registry hsame htwin =>
    subst hsame
    cases fault with
    | none => exact hnext l registry rfl htwin
    | some fault => exact .twin registry rfl (hT l registry htwin)

end Follows

namespace Twin

theorem issue (h : Twin r used tree pass l registry) {next next' : Registry}
    (hlater : l.registry.Later next) (hbeside : l.registry.Beside used next next') :
    Twin r used tree pass { l with registry := next } next' where
  beside := hbeside.base h.beside.later
  declared := h.declared
  issued hpass x text htext := (h.issued hpass x text htext).later hlater

theorem note (h : Twin r used tree pass l registry) (event : Event) :
    Twin r used tree pass (l.note event) registry :=
  ⟨h.beside, h.declared, h.issued⟩

/-- The next pass starts with the registries as they are. -/
theorem rebase (h : Twin r used tree pass l registry) {next : Pass}
    (hnext : .handlerParameters ∉ next.idioms → .handlerParameters ∉ pass.idioms) :
    Twin l.registry used tree next l registry :=
  ⟨h.beside.rebase, h.declared, fun hpass ↦ h.issued (hnext hpass)⟩

end Twin

/-- The only new spellings are names that were asked for. -/
theorem carried_spellings (e : Edits) : Carried fun engine requests ↦ ∀ x text,
    engine.edits.spellings.get? x = some text →
      e.spellings.get? x = some text ∨ ∃ request ∈ requests, request.name = text where
  request engine requests idiom request h := by
    have hbefore : ∀ x text, engine.edits.spellings.get? x = some text →
        e.spellings.get? x = some text ∨
          ∃ other ∈ requests ++ [request], other.name = text := by
      intro x text htext
      refine (h x text htext).imp_right ?_
      rintro ⟨other, hother, hname⟩
      exact ⟨other, List.mem_append_left _ hother, hname⟩
    unfold Engine.rename
    cases engine.store.bindings[request.binding]? with
    | none => exact hbefore
    | some b =>
      by_cases hsame : b.name = request.name
      · simpa [hsame] using hbefore
      · simp only [if_neg hsame]
        cases hrename : engine.store.rename engine.edits request.binding request.name with
        | error collision => exact hbefore
        | ok result =>
          obtain ⟨store, edits⟩ := result
          intro x text htext
          rcases Store.rename_eq_ok_iff.mp hrename with ⟨-, -, rfl⟩ | ⟨old, -, -, -, -, rfl⟩
          · exact hbefore x text htext
          · change (Store.respellSites _ _ _).spellings.get? x = some text at htext
            rw [Store.spellings_respellSites] at htext
            split at htext
            · exact .inr ⟨request, by simp, Option.some.inj htext⟩
            · exact hbefore x text htext
  note engine requests event hevent h := h

section Pass

variable (hr : r.Sound)

include hr in
/-- The requests of a match are carried out. -/
theorem Twin.apply (h : Twin r used tree pass l registry) (idiom : String)
    {requests : List Request} (found : List Match)
    (hgrounded : .handlerParameters ∉ pass.idioms →
      Recognition.Grounded l.context l.registry (some requests)) :
    Twin r used tree pass { l with engine := (l.engine.apply idiom requests).1, found }
      registry where
  beside := h.beside
  declared := (Store.preserved_declared tree).carried.apply [] h.declared idiom requests
  issued hpass x text htext := by
    rcases hgrounded hpass requests rfl with hknown | ⟨request, rfl, hplace⟩
    · rcases (carried_spellings l.engine.edits).apply [] (fun _ _ h ↦ .inl h) idiom requests x text
        htext with hbefore | ⟨request, hrequest, rfl⟩
      · exact h.issued hpass x text hbefore
      · rcases hknown request hrequest with howns | ⟨role, hname⟩
        · exact howns
        · rw [hname]
          exact (hr.later h.beside.later).owns_nameFor role
    · have hsame : (l.engine.apply idiom [request]).1 = l.engine := by
        rcases l.engine.rename_cases idiom request with ⟨-, hsame⟩ | ⟨b, _, hb, hne, -⟩
        · exact hsame
        · exact absurd (hplace b hb) hne
      change (l.engine.apply idiom [request]).1.edits.spellings.get? x = some text at htext
      rw [hsame] at htext
      exact h.issued hpass x text htext

variable (hgetters : .simpleGetter ∈ pass.idioms → .handlerParameters ∉ pass.idioms ∧
  ∀ n ∈ tree.nodes, ¬ Recognition.Mistaken used r n)

include hgetters in
/-- An idiom of a pass sees only functions on whose names the registries agree. -/
theorem Twin.echoes (h : Twin r used tree pass l registry) {n : Node} (hn : n ∈ tree.nodes)
    {idiom : Idiom} (hidiom : idiom ∈ pass.idioms) :
    Echoes l.registry used (fun _ ↦ True)
      (fun now found ↦ idiom ≠ .handlerParameters → Recognition.Grounded l.context now found)
      (idiom.recognise l.context (l.engine.edits.apply n)) := by
  refine Recognition.echoes_recognise idiom fun hgetter m hm name argument hshape hother ↦ ?_
  obtain ⟨hparameters, hclear⟩ := hgetters (hgetter ▸ hidiom)
  have hshown : l.engine.edits.Shows tree m := by
    cases hm with
    | here => exact ⟨n, hn, rfl⟩
    | declared hb hsite => exact ⟨_, h.declared _ _ hb _ hsite, rfl⟩
  obtain ⟨k, hk, rfl⟩ := hshown
  obtain ⟨own, returned, hown, rfl | ⟨x, hspelled⟩⟩ := Recognition.getter?_apply hshape
  · by_contra hnew
    refine hclear k hk ⟨(name, returned), hown, hother, ?_⟩
    rw [← Option.not_isSome_iff_eq_none]
    exact fun howns ↦ hnew (Registry.Owns.later howns h.beside.later)
  · exact h.issued hparameters x name hspelled

include hr hgetters

theorem Twin.visit (h : Twin r used tree pass l registry) {n : Node} (hn : n ∈ tree.nodes)
    {idioms : List Idiom} (hidioms : ∀ idiom ∈ idioms, idiom ∈ pass.idioms) :
    Follows r used (Twin r used tree pass) (l.visit n idioms)
      ({ l with registry }.visit n idioms) := by
  induction idioms generalizing l registry with
  | nil => exact .twin registry rfl h
  | cons idiom rest ih =>
    have hidiom := hidioms idiom List.mem_cons_self
    have hrest := fun other hother ↦ hidioms other (List.mem_cons_of_mem idiom hother)
    have hechoes := h.echoes hgetters hn hidiom
    have hlater := hechoes.later l.registry (.refl _) trivial
    have hgrounded := hechoes.holds l.registry (.refl _) trivial
    have hecho := hechoes.echo l.registry registry trivial h.beside.rebase
    rcases hrun : (idiom.recognise l.context (l.engine.edits.apply n)).run l.registry with
      ⟨answer, next⟩
    rcases hrun' : (idiom.recognise l.context (l.engine.edits.apply n)).run registry with
      ⟨answer', next'⟩
    rw [hrun] at hlater hgrounded
    rw [hrun, hrun'] at hecho
    have hask : l.ask n idiom = (answer, { l with registry := next }) := by
      rw [Labeling.ask, hrun]
    have hask' : ({ l with registry } : Labeling).ask n idiom =
        (answer', { l with registry := next' }) := by
      rw [ask_eq, hrun']
    cases hecho with
    | refused fault hfailed hcontested =>
      obtain rfl : answer' = .error fault := hfailed
      refine .refused fault (by rw [Labeling.visit, hask']) ?_
      suffices hend : next.Later (l.visit n (idiom :: rest)).1.registry from
        (hcontested.later hend).base h.beside.later
      rw [Labeling.visit, hask]
      rcases answer with fault | _ | requests
      · exact .refl next
      · exact ({ l with registry := next } : Labeling).later_visit n rest
      · exact .refl next
    | same hanswer hbeside =>
      obtain rfl : answer' = answer := hanswer
      have hnext := h.issue hlater hbeside
      rw [Labeling.visit, Labeling.visit, hask, hask']
      rcases answer' with fault | _ | requests
      · exact .twin next' rfl hnext
      · exact ih hnext hrest
      · refine .twin next' rfl (hnext.apply hr idiom.label _ fun hpass ↦ hgrounded _ rfl ?_)
        rintro rfl
        exact hpass hidiom

/-- A pass comes to a node. -/
theorem Twin.meet (h : Twin r used tree pass l registry) {n : Node} (hn : Visitable tree n) :
    Follows r used (Twin r used tree pass) (l.visit n ((n.kind.bind pass.table.get?).getD []))
      ({ l with registry }.visit n ((n.kind.bind pass.table.get?).getD [])) := by
  rcases hn with hn | ⟨hidentifier, -⟩
  · exact h.visit hr hgetters hn fun idiom hidiom ↦ (Pass.asked hidiom).2
  · rw [pass.asked_nothing hidentifier]
    exact .twin registry rfl h

theorem Twin.sweep (h : Twin r used tree pass l registry) {stack : List (Node × Option Node)}
    (hstack : ∀ entry ∈ stack, Visitable tree entry.1) :
    Follows r used (Twin r used tree pass) (l.sweep pass.table stack)
      ({ l with registry }.sweep pass.table stack) := by
  fun_induction Labeling.sweep l pass.table stack generalizing registry with
  | case1 l =>
    rw [Labeling.sweep]
    exact .twin registry rfl h
  | case2 l n parent rest htyped idioms next fault =>
    rename_i hresult
    have hfollows := h.meet hr hgetters (hstack (n, parent) List.mem_cons_self)
    rw [sweep_cons _ pass.table htyped]
    have hproceeds := hfollows.proceed (fun l ↦ l.sweep pass.table (l.descents n ++ rest))
      (fun _ _ hrun _ ↦ by rw [hresult] at hrun; simp at hrun) (fun l ↦ l.later_sweep pass.table _)
      fun _ _ h ↦ h
    rw [hresult] at hproceeds
    exact hproceeds
  | case3 l n parent rest htyped idioms next hresult =>
    rename_i ih
    have hfollows := h.meet hr hgetters (hstack (n, parent) List.mem_cons_self)
    rw [sweep_cons _ pass.table htyped]
    have hproceeds := hfollows.proceed (fun l ↦ l.sweep pass.table (l.descents n ++ rest))
      (fun other registry hrun htwin ↦ ?_) (fun l ↦ l.later_sweep pass.table _) fun _ _ h ↦ h
    · rw [hresult] at hproceeds
      exact hproceeds
    · obtain rfl : next = other := by
        rw [hresult] at hrun
        exact (Prod.mk.inj hrun).1
      refine ih htwin fun entry hentry ↦ ?_
      rcases List.mem_append.mp hentry with hdescent | hrest
      · exact visitable_of_mem_descents next (hstack (n, parent) List.mem_cons_self) hdescent
      · exact hstack entry (List.mem_cons_of_mem _ hrest)
  | case4 l n parent rest huntyped =>
    rw [Labeling.sweep, if_neg huntyped]
    exact .twin registry rfl h

/-- One pass. -/
theorem Twin.runPass (h : Twin r used tree pass l registry) :
    Follows r used (Twin r used tree pass) (l.runPass tree pass)
      ({ l with registry }.runPass tree pass) := by
  have hswept := (h.note (.passStarted pass.name)).sweep hr hgetters
    fun entry (hentry : entry ∈ [(tree, none)]) ↦ by
      obtain rfl := List.mem_singleton.mp hentry
      exact .inl tree.mem_nodes_self
  refine hswept.proceed _ (fun next registry _ htwin ↦ ?_) (fun next ↦ .refl _) fun _ _ h ↦ h
  exact .twin registry rfl ⟨htwin.beside, htwin.declared, htwin.issued⟩

/-- A pass and what comes after it. -/
theorem Twin.runPasses_cons (h : Twin r used tree pass l registry) {rest : List Pass}
    (hrest : ∀ next registry, l.runPass tree pass = (next, none) →
      Twin r used tree pass next registry → Follows r used (fun _ _ ↦ True)
        (next.runPasses tree rest) ({ next with registry }.runPasses tree rest)) :
    Follows r used (fun _ _ ↦ True) (l.runPasses tree (pass :: rest))
      ({ l with registry }.runPasses tree (pass :: rest)) :=
  (h.runPass hr hgetters).proceed (fun l ↦ l.runPasses tree rest) hrest
    (fun l ↦ l.later_runPasses tree rest) fun _ _ _ ↦ trivial

end Pass

/-- The standard passes: getters are looked for when all names in the program that an edit gave have
been issued, and parameters, whose names are not issued, are named after that. -/
theorem follows_standard (hr : r.Sound) (hlater : r.Later used) {s : Store}
    (hs : Store.analyze tree = .ok s)
    (hclear : ∀ mid,
      (start s {} r).runPasses tree [Pass.structural, Pass.wrappers] = (mid, none) →
        ∀ n ∈ tree.nodes, ¬ Recognition.Mistaken used mid.registry n) :
    Follows r used (fun _ _ ↦ True) ((start s {} r).runPasses tree Pass.standard)
      ((start s {} used).runPasses tree Pass.standard) := by
  have hstart : Twin r used tree Pass.structural (start s {} r) used :=
    ⟨hlater.beside, fun id b hb site hsite ↦ Store.declaredUnder hs hb hsite, by simp [start]⟩
  have hno {pass : Pass} {P : Prop} (hpass : .simpleGetter ∉ pass.idioms) :
      .simpleGetter ∈ pass.idioms → P := fun hgetter ↦ absurd hgetter hpass
  refine hstart.runPasses_cons hr (hno (by decide)) fun first _ hfirst htwin ↦ ?_
  have hfirstLater := htwin.beside.later
  refine Follows.base ?_ hfirstLater
  have hwrappers : Twin first.registry used tree Pass.wrappers first _ :=
    htwin.rebase fun _ ↦ by decide
  refine hwrappers.runPasses_cons (hr.later hfirstLater) (hno (by decide))
    fun second _ hsecond htwin ↦ ?_
  have hsecondLater := htwin.beside.later
  refine Follows.base ?_ hsecondLater
  have hmid : (start s {} r).runPasses tree [Pass.structural, Pass.wrappers] = (second, none) := by
    simp only [runPasses, hfirst, hsecond]
  have hgetters : Twin second.registry used tree Pass.getters second _ :=
    htwin.rebase fun _ ↦ by decide
  refine hgetters.runPasses_cons ((hr.later hfirstLater).later hsecondLater)
    (fun _ ↦ ⟨by decide, hclear second hmid⟩) fun third _ _ htwin ↦ ?_
  have hthirdLater := htwin.beside.later
  refine Follows.base ?_ hthirdLater
  have hparameters : Twin third.registry used tree Pass.parameters third _ :=
    htwin.rebase fun hpass ↦ absurd (by decide) hpass
  refine hparameters.runPasses_cons (((hr.later hfirstLater).later hsecondLater).later hthirdLater)
    (hno (by decide)) fun fourth registry _ _ ↦ ?_
  exact .twin registry rfl trivial

end Run

end Labeling

/-- A program is labelled with a registry that another program was labelled with as with a new one,
up to what the registries know in the end, or a name is refused that the first program gave to
somebody else than the second one does; provided that no function of the second program that looks
like a getter has a name from the start that the first one left to another idiom, unless an idiom
of the second one has been given that name when getters are looked for. -/
theorem same_unless_remembered {A B : Node} {lead : String} {descriptors : Descriptors}
    {parameterRoles : ParameterRoles} {r : Registry}
    (hr : Registry.create lead descriptors parameterRoles = .ok r) {s s' : Store}
    {earlier : Labeling} {outcome : Option Fault}
    (hearlier : (Labeling.start s {} r).runPasses A Pass.standard = (earlier, outcome))
    (hs' : Store.analyze B = .ok s')
    (hclear : ∀ mid,
      (Labeling.start s' {} r).runPasses B [Pass.structural, Pass.wrappers] = (mid, none) →
        ∀ n ∈ B.nodes, ¬ Recognition.Mistaken earlier.registry mid.registry n) :
    let new := (Labeling.start s' {} r).runPasses B Pass.standard
    let again := (Labeling.start s' {} earlier.registry).runPasses B Pass.standard
    (∃ registry, again = ({ new.1 with registry }, new.2)) ∨
      ∃ name owner claimant, again.2 = some (.registry (.clash name owner claimant)) ∧
        owner ≠ claimant ∧ r.ownerOf? name = none ∧
        earlier.registry.ownerOf? name = some owner ∧
        new.1.registry.ownerOf? name = some claimant := by
  have hlater : r.Later earlier.registry := by
    have hrun := (Labeling.start s {} r).later_runPasses A Pass.standard
    rwa [hearlier] at hrun
  have hfollows := Labeling.follows_standard (Registry.sound_of_create hr) hlater hs' hclear
  cases hfollows with
  | refused fault hfailed hcontested =>
    obtain ⟨name, owner, claimant, rfl, hcontested⟩ := hcontested
    exact .inr ⟨name, owner, claimant, hfailed, hcontested⟩
  | twin registry hsame _ => exact .inl ⟨registry, hsame⟩

namespace Sample

/-- A node that holds its lists of children under the labels of its kind. -/
def whole (index : Nat) (kind : Kind) (branches : List (Field × Option Node)) : Node :=
  .mk { id := ⟨index, false⟩, kind := some kind, lists := kind.listFields } branches

/-- `var m = { bake: f, get_t: g }; function h() { return …; }`, where a name is returned. -/
def handlersAndGetter (returned : String) : Node :=
  whole 0 .program
    [(.body, some (.mk
      { id := ⟨1, false⟩, kind := some .variableDeclaration, variety := some "var",
        lists := [.declarations] }
      [(.declarations, some (whole 2 .variableDeclarator [(.id, some (name 3 "m")),
        (.init, some (whole 4 .objectExpression [
          (.properties, some (.mk
            { id := ⟨5, false⟩, kind := some .property, variety := some "init" }
            [(.key, some (name 6 "bake")), (.value, some (name 7 "f"))])),
          (.properties, some (.mk
            { id := ⟨8, false⟩, kind := some .property, variety := some "init" }
            [(.key, some (name 9 "get_t")), (.value, some (name 10 "g"))]))]))]))])),
      (.body, some (whole 11 .functionDeclaration [(.id, some (name 12 "h")),
        (.body, some (whole 13 .blockStatement [(.body, some (whole 14 .returnStatement
          [(.argument, some (name 15 returned))]))]))]))]

/-- `var m = { bake: … }; function …() { return x; }`, where the map holds the function. -/
def ownHandler (handler : String) : Node :=
  whole 0 .program
    [(.body, some (.mk
      { id := ⟨1, false⟩, kind := some .variableDeclaration, variety := some "var",
        lists := [.declarations] }
      [(.declarations, some (whole 2 .variableDeclarator [(.id, some (name 3 "m")),
        (.init, some (whole 4 .objectExpression [(.properties, some (.mk
          { id := ⟨5, false⟩, kind := some .property, variety := some "init" }
          [(.key, some (name 6 "bake")), (.value, some (name 7 handler))]))]))]))])),
      (.body, some (whole 8 .functionDeclaration [(.id, some (name 9 handler)),
        (.body, some (whole 10 .blockStatement [(.body, some (whole 11 .returnStatement
          [(.argument, some (name 12 "x"))]))]))]))]

/-- `var …; function …() { return …; }`. -/
def variableAndGetter (declared getter returned : String) : Node :=
  whole 0 .program
    [(.body, some (.mk
      { id := ⟨1, false⟩, kind := some .variableDeclaration, variety := some "var",
        lists := [.declarations] }
      [(.declarations, some (whole 2 .variableDeclarator [(.id, some (name 3 declared))]))])),
      (.body, some (whole 4 .functionDeclaration [(.id, some (name 5 getter)),
        (.body, some (whole 6 .blockStatement [(.body, some (whole 7 .returnStatement
          [(.argument, some (name 8 returned))]))]))]))]

/-- What is seen when a program is labelled, and then another one with the same registry and with a
new one. -/
structure Reuse where
  earlier : Option Fault
  /-- Whether a function has a name that only the used registry knows. -/
  mistaken : Bool
  again : Option Fault
  new : Option Fault
  foundAgain : Nat
  found : Nat
deriving DecidableEq

def reuse (r : Registry) (s s' : Store) (A B : Node) : Reuse :=
  let earlier := (Labeling.start s {} r).runPasses A Pass.standard
  let mid := (Labeling.start s' {} r).runPasses B (Pass.standard.take 2)
  let again := (Labeling.start s' {} earlier.1.registry).runPasses B Pass.standard
  let new := (Labeling.start s' {} r).runPasses B Pass.standard
  { earlier := earlier.2
    mistaken := B.nodes.any (Recognition.Mistaken earlier.1.registry mid.1.registry ·)
    again := again.2
    new := new.2
    foundAgain := again.1.found.length
    found := new.1.found.length }

def reuse? (A B : Node) : Option Reuse :=
  registry?.toOption.bind fun r ↦
    (Store.analyze A).toOption.bind fun s ↦
      (Store.analyze B).toOption.map fun s' ↦ reuse r s s' A B

theorem exists_of_reuse? {A B : Node} {seen : Reuse} (h : reuse? A B = some seen) :
    ∃ r s s', registry? = .ok r ∧ Store.analyze A = .ok s ∧ Store.analyze B = .ok s' ∧
      reuse r s s' A B = seen := by
  obtain ⟨r, hr, h⟩ := Option.bind_eq_some_iff.mp h
  obtain ⟨s, hs, h⟩ := Option.bind_eq_some_iff.mp h
  obtain ⟨s', hs', h⟩ := Option.map_eq_some_iff.mp h
  exact ⟨r, s, s', toOption_eq_some_iff.mp hr, toOption_eq_some_iff.mp hs,
    toOption_eq_some_iff.mp hs', h⟩

end Sample

/-- A program in which a getter-like function has its handler's name already, after a program that
gave the name to the handler of the same key. -/
theorem same_unless_remembered_ownHandler :
    ∃ r s s' earlier registry, Sample.registry? = .ok r ∧
      Store.analyze (Sample.ownHandler "f") = .ok s ∧
      (Labeling.start s {} r).runPasses (Sample.ownHandler "f") Pass.standard = (earlier, none) ∧
      Store.analyze (Sample.ownHandler "___bakeHandler") = .ok s' ∧
      let new := (Labeling.start s' {} r).runPasses (Sample.ownHandler "___bakeHandler")
        Pass.standard
      new.2 = none ∧ new.1.found.length = 1 ∧
        (Labeling.start s' {} earlier.registry).runPasses (Sample.ownHandler "___bakeHandler")
          Pass.standard = ({ new.1 with registry }, none) := by
  have hobserved : Sample.reuse? (Sample.ownHandler "f") (Sample.ownHandler "___bakeHandler") =
      some ⟨none, false, none, none, 1, 1⟩ := by
    simp only [Sample.reuse?, Sample.reuse, Labeling.runPasses_eq_runTables, List.map_take,
      Pass.tables_standard]
    decide +kernel
  obtain ⟨r, s, s', hr, hs, hs', hseen⟩ := Sample.exists_of_reuse? hobserved
  simp only [Sample.reuse, Sample.Reuse.mk.injEq] at hseen
  obtain ⟨hearlier, hmistaken, hagain, hnew, -, hfound⟩ := hseen
  have hclear : ∀ mid, (Labeling.start s' {} r).runPasses (Sample.ownHandler "___bakeHandler")
      [Pass.structural, Pass.wrappers] = (mid, none) →
      ∀ n ∈ (Sample.ownHandler "___bakeHandler").nodes, ¬ Recognition.Mistaken
        ((Labeling.start s {} r).runPasses (Sample.ownHandler "f") Pass.standard).1.registry
        mid.registry n := by
    intro mid hmid n hn hmistake
    have hany := List.any_eq_false.mp hmistaken n hn
    rw [decide_eq_true_eq] at hany
    rw [show Pass.standard.take 2 = [Pass.structural, Pass.wrappers] from rfl, hmid] at hany
    exact hany hmistake
  have hrun : (Labeling.start s {} r).runPasses (Sample.ownHandler "f") Pass.standard =
      (((Labeling.start s {} r).runPasses (Sample.ownHandler "f") Pass.standard).1, none) :=
    Prod.ext rfl hearlier
  rcases same_unless_remembered hr hrun hs' hclear with
    ⟨registry, hsame⟩ | ⟨name, owner, claimant, hfailed, -⟩
  · exact ⟨r, s, s', _, registry, hr, hs, hrun, hs', hnew, hfound, hnew ▸ hsame⟩
  · rw [hagain] at hfailed
    exact absurd hfailed (by simp)

/-- A used registry takes a function for a handler that a new one takes for a getter, or refuses the
name of a getter because an earlier program has a handler of that name. -/
theorem differs_if_remembered :
    (∃ r s earlier, Sample.registry? = .ok r ∧
      Store.analyze (Sample.variableAndGetter "___get_x" "___bakeHandler" "x") = .ok s ∧
      (Labeling.start s {} r).runPasses (Sample.variableAndGetter "___get_x" "___bakeHandler" "x")
        Pass.standard = (earlier, none) ∧
      ((Labeling.start s {} earlier.registry).runPasses
        (Sample.variableAndGetter "___get_x" "___bakeHandler" "x")
        Pass.standard).1.found.length = 0 ∧
      earlier.found.length = 1) ∧
    ∃ r s s' earlier, Sample.registry? = .ok r ∧
      Store.analyze (Sample.handlersAndGetter "x") = .ok s ∧
      (Labeling.start s {} r).runPasses (Sample.handlersAndGetter "x") Pass.standard =
        (earlier, none) ∧
      Store.analyze (Sample.variableAndGetter "v" "h" "tHandler") = .ok s' ∧
      ((Labeling.start s' {} earlier.registry).runPasses
        (Sample.variableAndGetter "v" "h" "tHandler") Pass.standard).2 =
          some (.registry (.clash "___get_tHandler" "handler:get_t" "getter:tHandler")) ∧
      ((Labeling.start s' {} r).runPasses (Sample.variableAndGetter "v" "h" "tHandler")
        Pass.standard).2 = none := by
  constructor
  · have hobserved : Sample.reuse? (Sample.variableAndGetter "___get_x" "___bakeHandler" "x")
        (Sample.variableAndGetter "___get_x" "___bakeHandler" "x") =
        some ⟨none, true, none, none, 0, 1⟩ := by
      simp only [Sample.reuse?, Sample.reuse, Labeling.runPasses_eq_runTables, List.map_take,
        Pass.tables_standard]
      decide +kernel
    obtain ⟨r, s, s', hr, hs, hs', hseen⟩ := Sample.exists_of_reuse? hobserved
    obtain rfl : s = s' := Except.ok.inj (hs.symm.trans hs')
    simp only [Sample.reuse, Sample.Reuse.mk.injEq] at hseen
    obtain ⟨hearlier, -, -, -, hfoundAgain, hfound⟩ := hseen
    exact ⟨r, s, _, hr, hs, Prod.ext rfl hearlier, hfoundAgain, hfound⟩
  · have hobserved : Sample.reuse? (Sample.handlersAndGetter "x")
        (Sample.variableAndGetter "v" "h" "tHandler") = some ⟨none, false,
          some (.registry (.clash "___get_tHandler" "handler:get_t" "getter:tHandler")), none,
          0, 1⟩ := by
      simp only [Sample.reuse?, Sample.reuse, Labeling.runPasses_eq_runTables, List.map_take,
        Pass.tables_standard]
      decide +kernel
    obtain ⟨r, s, s', hr, hs, hs', hseen⟩ := Sample.exists_of_reuse? hobserved
    simp only [Sample.reuse, Sample.Reuse.mk.injEq] at hseen
    obtain ⟨hearlier, -, hagain, hnew, -⟩ := hseen
    exact ⟨r, s, s', _, hr, hs, Prod.ext rfl hearlier, hs', hagain, hnew⟩

end Relabel
