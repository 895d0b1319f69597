import Relabel.Proofs.Idiom.Text
import Relabel.Proofs.Labeling.Order
import Relabel.Proofs.Labeling.Reuse

/-!
# The structural pass settles at once

The first run of the structural pass sees the program half renamed, the second sees it as the first
has left it. Idioms that go by scopes see no difference, and those that look at text find less, if
anything. As these are asked last about a node, the second run asks for nothing that the first did
not ask for. What the first asked for is in place, if it asked for one name for each binding.
-/

namespace Relabel

namespace Idiom

/-- Idioms of which only the last one may look at text. -/
def TextLast : List Idiom → Prop
  | [] => True
  | idiom :: rest => (idiom ∈ scopeBased ∨ idiom ∈ textBased ∧ rest = []) ∧ TextLast rest

end Idiom

theorem Pass.table_structural : structural.table =
    ⟨[(.variableDeclarator, [.handlerMap, .polyfillAccessor]), (.catchClause, [.catchParameter]),
      (.variableDeclaration, [.guardedInvoker]),
      (.functionDeclaration, [.chartDecode, .standardDecode, .performanceNow])]⟩ :=
  congrArg Prod.snd (List.cons.inj tables_standard).1

theorem Pass.textLast_structural (kind : Option Kind) :
    Idiom.TextLast ((kind.bind structural.table.get?).getD []) := by
  cases kind with
  | none => trivial
  | some kind =>
    rw [table_structural, Option.bind_some]
    simp only [Table.get?_cons]
    split_ifs <;> simp [Idiom.TextLast, Idiom.scopeBased, Idiom.textBased, Table.get?]

namespace Labeling

open Recognition

/-- Without getters and parameters of handlers, a run asks only for names that its registry makes
up. -/
theorem coins_of_runPasses {r : Registry} {tree : Node} {passes : List Pass}
    (hpasses : ∀ pass ∈ passes, .simpleGetter ∉ pass.idioms ∧ .handlerParameters ∉ pass.idioms)
    {l : Labeling} (hlater : r.Later l.registry)
    (hrequests : ∀ request ∈ l.requests, r.Coins request.name) :
    ∀ request ∈ (l.runPasses tree passes).1.requests, r.Coins request.name := by
  have hstep (l : Labeling) (n : Node) (idiom : Idiom) (hgetter : idiom ≠ .simpleGetter)
      (hparameters : idiom ≠ .handlerParameters)
      (h : r.Later l.registry ∧ ∀ request ∈ l.requests, r.Coins request.name) :
      r.Later (l.visit n [idiom]).1.registry ∧
        ∀ request ∈ (l.visit n [idiom]).1.requests, r.Coins request.name := by
    have hwants := wants_recognise (r := r) (c := l.context) (n := l.context.edits.apply n) idiom
      l.registry h.1
    rw [visit_singleton]
    rcases hrun : (idiom.recognise l.context (l.context.edits.apply n)).run l.registry with
      ⟨fault | _ | requests, registry⟩
    · rw [hrun] at hwants
      exact ⟨hwants.1, h.2⟩
    · rw [hrun] at hwants
      exact ⟨hwants.1, h.2⟩
    · rw [hrun] at hwants
      refine ⟨hwants.1, fun request hrequest ↦ ?_⟩
      simp only [Labeling.requests, List.flatMap_append, List.flatMap_singleton,
        List.mem_append] at hrequest
      rcases hrequest with hbefore | hnew
      · exact h.2 request hbefore
      · exact (hwants.2 requests rfl request hnew).2 hgetter hparameters
  have hthroughout : Throughout
      (fun l ↦ r.Later l.registry ∧ ∀ request ∈ l.requests, r.Coins request.name)
      (fun _ _ ↦ True) (fun _ ↦ True) passes :=
    { walks := fun pass hpass ↦
        { step := fun l n idiom h _ hidiom ↦ by
            obtain ⟨hgetter, hparameters⟩ := hpasses pass hpass
            have hmem := (Pass.asked hidiom).2
            refine ⟨hstep l n idiom ?_ ?_ h, fun _ _ ↦ trivial⟩
            · rintro rfl
              exact hgetter hmem
            · rintro rfl
              exact hparameters hmem
          descents := fun _ _ _ _ _ ↦ trivial
          untyped := fun _ _ _ _ _ _ ↦ trivial }
      note := fun _ _ _ h ↦ h
      finish := fun _ _ h ↦ h }
  exact (hthroughout.runPasses trivial ⟨hlater, hrequests⟩).1.2

/-- A run over a program with names that are settled, behind a run that settles them. It has
attempted nothing, and has issued the same names, unless it has ended because something cannot be
printed. -/
structure Trails (tree : Node) (settled : Recognition.Context) (l : Labeling)
    (run : Labeling × Option Fault) : Prop where
  context : run.1.context = settled
  idle : run.1.engine.rows = []
  registry : run.2 = none → run.1.registry = l.registry
  fault : ∀ fault, run.2 = some fault → settled.Unprinted tree fault

namespace Trails

variable {tree : Node} {settled : Recognition.Context} {l l' next : Labeling}

theorem proceed {run : Labeling × Option Fault} (h : Trails tree settled l run)
    {go : Labeling → Labeling × Option Fault}
    (hgo : ∀ l', run = (l', none) → Trails tree settled next (go l')) :
    Trails tree settled next (proceed run go) := by
  rcases run with ⟨l', fault | _⟩
  · exact hgo l' rfl
  · exact ⟨h.context, h.idle, by simp [Labeling.proceed], h.fault⟩

/-- Requests that are in place leave the run behind. -/
theorem apply (h : Trails tree settled l (l', none)) (idiom : String) {requests : List Request}
    (hplace : ∀ request ∈ requests, request.InPlace settled.store) (registry : Registry)
    (found found' : List Match) (engine : Engine) :
    Trails tree settled { l with registry, found, engine }
      ({ l' with registry, found := found', engine := (l'.engine.apply idiom requests).1 },
        none) := by
  have hstore : l'.engine.store = settled.store := congrArg (·.store) h.context
  obtain ⟨hidle, hkept⟩ := Engine.apply_of_idle h.idle idiom requests
  have hrows := hidle.mpr (hstore ▸ hplace)
  obtain ⟨hsame, hedits⟩ := hkept hrows
  refine ⟨?_, hrows, fun _ ↦ rfl, by simp⟩
  rw [← h.context, Labeling.context, Labeling.context, hsame, hedits]

/-- At a node the run behind finds what the other one has found, or less where text is looked at. -/
theorem visit {n : Node} {idioms : List Idiom} (h : Trails tree settled l (l', none))
    (hlast : Idiom.TextLast idioms)
    (hscoped : ∀ idiom ∈ Idiom.scopeBased, ∀ registry,
      (idiom.recognise settled (settled.edits.apply n)).run registry =
        (idiom.recognise l.context (l.context.edits.apply n)).run registry)
    (htext : ∀ idiom ∈ Idiom.textBased, ∀ registry,
      (idiom.recognise settled (settled.edits.apply n)).run registry =
          (idiom.recognise l.context (l.context.edits.apply n)).run registry ∨
        settled.Loses tree ((idiom.recognise l.context (l.context.edits.apply n)).run registry)
          ((idiom.recognise settled (settled.edits.apply n)).run registry))
    (hvisit : l.visit n idioms = (next, none))
    (hplace : ∀ request ∈ next.requests, request.InPlace settled.store) :
    Trails tree settled next (l'.visit n idioms) := by
  induction idioms generalizing l l' with
  | nil =>
    obtain ⟨rfl, -⟩ := Prod.mk.inj hvisit
    exact h
  | cons idiom rest ih =>
    obtain ⟨hidiom, hrest⟩ := hlast
    have hfound : (idiom.recognise settled (settled.edits.apply n)).run l.registry =
          (idiom.recognise l.context (l.context.edits.apply n)).run l.registry ∨
        rest = [] ∧ settled.Loses tree
          ((idiom.recognise l.context (l.context.edits.apply n)).run l.registry)
          ((idiom.recognise settled (settled.edits.apply n)).run l.registry) := by
      rcases hidiom with hidiom | ⟨hidiom, hnone⟩
      · exact .inl (hscoped idiom hidiom _)
      · exact (htext idiom hidiom _).imp_right (⟨hnone, ·⟩)
    rw [visit_cons] at hvisit ⊢
    rw [show l'.registry = l.registry from h.registry rfl, show l'.context = settled from h.context]
    generalize (idiom.recognise l.context (l.context.edits.apply n)).run l.registry = result
      at hvisit hfound
    generalize (idiom.recognise settled (settled.edits.apply n)).run l.registry = result' at hfound
    rcases result with ⟨answer, registry⟩
    have hissued (hnone : rest = []) : Trails tree settled next ({ l' with registry }, none) := by
      subst hnone
      rcases answer with fault | _ | requests
      · exact absurd (Prod.mk.inj hvisit).2 (by simp)
      all_goals
        obtain ⟨rfl, -⟩ := Prod.mk.inj hvisit
        exact ⟨h.context, h.idle, fun _ ↦ rfl, by simp⟩
    rcases hfound with rfl | ⟨hnone, rfl | ⟨fault, hfault, rfl⟩⟩
    · rcases answer with fault | _ | requests
      · exact absurd (Prod.mk.inj hvisit).2 (by simp)
      · have hlevel : Trails tree settled { l with registry } ({ l' with registry }, none) :=
          ⟨h.context, h.idle, fun _ ↦ rfl, by simp⟩
        exact ih hlevel hrest hscoped htext hvisit
      · obtain ⟨rfl, -⟩ := Prod.mk.inj hvisit
        exact h.apply idiom.label (fun request hrequest ↦ hplace request (by
          simp [Labeling.requests, hrequest])) registry _ _ _
    · subst hnone
      exact hissued rfl
    · exact ⟨h.context, h.idle, by simp, fun _ hsame ↦ Option.some.inj hsame ▸ hfault⟩

end Trails

/-! ## The second run -/

/-- An identifier that has a new spelling keeps one. -/
theorem preserved_isSome_spellings (x : NodeId) :
    Preserved fun _ e ↦ (e.spellings.get? x).isSome = true := by
  rintro _ _ id b name h - - -
  rw [Store.spellings_respellSites]
  split
  · rfl
  · exact h

section Twice

variable {tree : Node} {s : Store} {r : Registry} {l l' last : Labeling}
  (hs : Store.analyze tree = .ok s) (hformed : tree.WellFormed) (hunshared : tree.Unshared)
  (hkeys : tree.KeysApart) (hr : r.descriptors = Role.defaultDescriptor)

include hs hformed hunshared hkeys hr

/-- A walk behind a walk that has come to its end stays behind it. -/
theorem Trails.visitAll {nodes : List Node} (hnodes : ∀ n ∈ nodes, n ∈ tree.nodes)
    (hgrants : ∃ requests, s.Grants requests l.engine.store l.engine.edits)
    (hwalk : l.visitAll Pass.structural.table nodes = (last, none))
    (hshows : last.context.ShowsCoins tree r)
    (hplace : ∀ request ∈ last.requests, request.InPlace last.engine.store)
    (h : Trails tree last.context l (l', none)) :
    Trails tree last.context last (l'.visitAll Pass.structural.table nodes) := by
  induction nodes generalizing l l' with
  | nil =>
    obtain ⟨rfl, -⟩ := Prod.mk.inj hwalk
    exact h
  | cons n rest ih =>
    obtain ⟨hn, hrest⟩ := List.forall_mem_cons.mp hnodes
    have hlast {P : Engine → List Request → Prop} (hP : Carried P) (hl : P l.engine l.requests) :
        P last.engine last.requests := by
      have hcarried := carried_visitAll hP hl Pass.structural.table (n :: rest)
      rwa [hwalk] at hcarried
    obtain ⟨mid, hvisit, hwalk'⟩ := proceed_eq_none_iff.mp hwalk
    have hmid : ∀ request ∈ mid.requests, request ∈ last.requests := by
      have hkept : Carried fun _ requests ↦ ∀ request ∈ mid.requests, request ∈ requests :=
        ⟨fun _ _ _ _ h request hrequest ↦ List.mem_append_left _ (h request hrequest),
          fun _ _ _ _ h ↦ h⟩
      have hcarried := carried_visitAll hkept (fun _ h ↦ h) Pass.structural.table rest
      rwa [hwalk'] at hcarried
    have hprecedes : Context.Precedes s l.context last.context :=
      { grants := hgrants
        grants' := hlast (Store.preserved_grants s).carried hgrants
        respelled := fun x hx ↦ hlast (preserved_isSome_spellings x).carried hx }
    have hgrantsMid : ∃ requests, s.Grants requests mid.engine.store mid.engine.edits := by
      have hcarried := (Store.preserved_grants s).carried.visit hgrants n
        ((n.kind.bind Pass.structural.table.get?).getD [])
      rwa [hvisit] at hcarried
    have hrenamed : l.context.Renamed tree s := hgrants.choose_spec.renamed hs hunshared hkeys
    have hrenamed' : last.context.Renamed tree s :=
      hprecedes.grants'.choose_spec.renamed hs hunshared hkeys
    have htrails := h.visit (Pass.textLast_structural n.kind)
      (fun idiom hidiom registry ↦ by
        rw [Idiom.recognise_apply hrenamed' hkeys hidiom hn,
          Idiom.recognise_apply hrenamed hkeys hidiom hn])
      (fun idiom hidiom registry ↦
        hprecedes.recognise_eq_or_loses hs hformed hunshared hkeys hr hshows hn hidiom registry)
      hvisit fun request hrequest ↦ hplace request (hmid request hrequest)
    exact htrails.proceed fun l'' hrun ↦ ih hrest hgrantsMid hwalk' (hrun ▸ htrails)

/-- A run of the structural pass that goes on with what a run of it has left is behind that run. -/
theorem trails_of_run (hrun : (start s {} r).runPasses tree [Pass.structural] = (last, none))
    (hshows : last.context.ShowsCoins tree r)
    (hplace : ∀ request ∈ last.requests, request.InPlace last.engine.store) :
    Trails tree last.context last
      ((start last.engine.store last.engine.edits r).runPasses tree [Pass.structural]) := by
  have hreachable : last.engine.Reachable tree s :=
    ⟨hs, [.label r [Pass.structural]], congrArg (·.1.engine) hrun.symm⟩
  have hjustified : (start s {} r).Justified tree := Store.justified_of_analyze hs
  have hjustified' : (start last.engine.store last.engine.edits r).Justified tree :=
    hreachable.eachSite_and_justified
  rw [runPasses_singleton, hjustified.runPass_eq hformed hunshared] at hrun
  rw [runPasses_singleton, hjustified'.runPass_eq hformed hunshared]
  obtain ⟨walked, hwalk, hfinish⟩ := proceed_eq_none_iff.mp hrun
  obtain ⟨rfl, -⟩ := Prod.mk.inj hfinish
  have hstart : Trails tree walked.context ((start s {} r).note (.passStarted Pass.structural.name))
      ((start walked.engine.store walked.engine.edits r).note (.passStarted Pass.structural.name),
        none) :=
    ⟨rfl, rfl, fun _ ↦ rfl, by simp⟩
  have hwalked := hstart.visitAll hs hformed hunshared hkeys hr
    (fun n hn ↦ (Node.mem_asked_iff.mp hn).1) ⟨[], .start⟩ hwalk hshows hplace
  refine hwalked.proceed fun l' hwalk' ↦ ?_
  rw [hwalk'] at hwalked
  exact ⟨hwalked.context, (Engine.rows_note_of_not_attempted (by simp)).trans hwalked.idle,
    hwalked.registry, by simp⟩

end Twice

/-- A run attempted no rename and left the program as it was. It came to its end, unless it met a
part of the program that cannot be printed. -/
structure LeavesAlone (tree : Node) (run : Labeling × Option Fault) : Prop where
  idle : run.1.engine.rows = []
  unchanged : run.1.engine.edits.apply tree = tree
  fault : ∀ fault, run.2 = some fault →
    ∃ n ∈ tree.nodes, ∃ reason, n.render = .error reason ∧ fault = .printing reason

end Labeling

/-- A second run of the structural pass changes nothing and is refused nothing, if the first one was
refused nothing and asked for one name for each binding. -/
theorem structural_run_settles {tree : Node} {s : Store} {lead : String}
    {parameterRoles : ParameterRoles} {r : Registry} {l : Labeling}
    (hs : Store.analyze tree = .ok s) (hformed : tree.WellFormed) (hunshared : tree.Unshared)
    (hkeys : tree.KeysApart) (hr : Registry.create lead Role.defaultDescriptor parameterRoles = .ok r)
    (hrun : (Labeling.start s {} r).runPasses tree [Pass.structural] = (l, none))
    (hcollisions : l.engine.collisions = [])
    (hsingle : ∀ first ∈ l.requests, ∀ second ∈ l.requests, first.binding = second.binding →
      first.name = second.name)
    (hprints : (l.engine.edits.apply tree).PrintsNames) :
    ∃ fresh, Store.analyze (l.engine.edits.apply tree) = .ok fresh ∧
      Labeling.LeavesAlone (l.engine.edits.apply tree)
        ((Labeling.start fresh {} r).runPasses (l.engine.edits.apply tree) [Pass.structural]) := by
  have hdescriptors : r.descriptors = Role.defaultDescriptor :=
    (Registry.later_of_foldlM_claimRole hr).1.descriptors
  have hreachable : l.engine.Reachable tree s :=
    ⟨hs, [.label r [Pass.structural]], congrArg (·.1.engine) hrun.symm⟩
  have hcoins : ∀ request ∈ l.requests, r.Coins request.name := by
    have hcoined : ∀ request ∈ ((Labeling.start s {} r).runPasses tree [Pass.structural]).1.requests,
        r.Coins request.name :=
      Labeling.coins_of_runPasses (by decide) (.refl r) (by simp [Labeling.start, Labeling.requests])
    rwa [hrun] at hcoined
  have hshows : l.context.ShowsCoins tree r := by
    refine ⟨fun x text htext ↦ ?_, hprints⟩
    have hspelled := (Labeling.carried_spellings {}).runPasses (l := Labeling.start s {} r)
      (fun _ _ h ↦ .inl h) tree [Pass.structural] x text
    rw [hrun] at hspelled
    rcases hspelled htext with hbefore | ⟨request, hrequest, rfl⟩
    · simp at hbefore
    · exact hcoins request hrequest
  have hplace : ∀ request ∈ l.requests, request.InPlace l.engine.store := by
    intro request hrequest
    rw [Labeling.inPlace_iff_of_run hrun hcollisions]
    intro b _
    obtain ⟨name, hname⟩ := exists_lastName?_of_mem hrequest
    rw [hname]
    exact hsingle _ (mem_of_lastName? hname) request hrequest rfl
  have htrails := Labeling.trails_of_run hs hformed hunshared hkeys hdescriptors hrun hshows hplace
  obtain ⟨fresh, hfresh, hparallel⟩ :=
    hreachable.exists_parallel hunshared hkeys.namesKeys r [Pass.structural]
  refine ⟨fresh, hfresh, ?_⟩
  cases hparallel with
  | stirred hstirred _ => exact absurd htrails.idle hstirred
  | idle habreast hfault =>
    refine ⟨habreast.idle', ?_, fun fault hended ↦ ?_⟩
    · rw [habreast.edits_eq' rfl, Edits.apply_empty]
    · obtain ⟨n, hn, reason, hreason, rfl⟩ := htrails.fault fault (hfault.symm.trans hended)
      have hkept := (hreachable.renamed hunshared hkeys).keepsKey
      refine ⟨l.engine.edits.apply n, ?_, reason, hreason, rfl⟩
      rw [Edits.nodes_apply hkept]
      exact List.mem_map_of_mem hn

namespace Sample

/-- `var g = (function () { try { return window.atob; } catch (e) { } })();` -/
def invoker : Node :=
  node 0 .program [(.body, some (.mk
    { id := ⟨1, false⟩, kind := some .variableDeclaration, variety := some "var" }
    [(.declarations, some (node 2 .variableDeclarator [(.id, some (name 3 "g")),
      (.init, some (node 4 .callExpression [(.callee, some (node 5 .functionExpression
        [(.body, some (node 6 .blockStatement [(.body, some (node 7 .tryStatement
          [(.block, some (node 8 .blockStatement [(.body, some (node 9 .returnStatement
            [(.argument, some (node 10 .memberExpression [(.object, some (name 11 "window")),
              (.property, some (name 12 "atob"))]))]))])),
          (.handler, some (node 13 .catchClause [(.param, some (name 14 "e")),
            (.body, some (node 15 .blockStatement []))]))]))]))]))]))]))]))]

theorem unshared_invoker : invoker.Unshared where
  identity := eq_of_id_eq invoker.nodes (List.range 16) rfl (by
    show ((List.range 16).map fun index ↦ (⟨index, false⟩ : NodeId)).Nodup
    decide +kernel)
  distinct := by
    show ((List.range' 1 15).map fun index ↦ (⟨index, false⟩ : NodeId)).Nodup
    decide +kernel

end Sample

/-- The invoker is known by its text, in which nothing is renamed, and the parameter of its catch
clause by its place. -/
theorem structural_run_settles_invoker :
    ∃ registry s l, Sample.registry? = .ok registry ∧ Store.analyze Sample.invoker = .ok s ∧
      Sample.invoker.WellFormed ∧ Sample.invoker.Unshared ∧ Sample.invoker.KeysApart ∧
      (Labeling.start s {} registry).runPasses Sample.invoker [Pass.structural] = (l, none) ∧
      l.engine.collisions = [] ∧ l.engine.applied.length = 2 ∧
      (∀ first ∈ l.requests, ∀ second ∈ l.requests, first.binding = second.binding →
        first.name = second.name) ∧
      (l.engine.edits.apply Sample.invoker).PrintsNames ∧
      ∃ fresh, Store.analyze (l.engine.edits.apply Sample.invoker) = .ok fresh ∧
        Labeling.LeavesAlone (l.engine.edits.apply Sample.invoker)
          ((Labeling.start fresh {} registry).runPasses (l.engine.edits.apply Sample.invoker)
            [Pass.structural]) := by
  have hobserved : (Sample.registry?.toOption.bind fun registry ↦
      (Store.analyze Sample.invoker).toOption.map fun s ↦
        let run := (Labeling.start s {} registry).runPasses Sample.invoker [Pass.structural]
        decide (run.2 = none ∧ run.1.engine.collisions = [] ∧ run.1.engine.applied.length = 2 ∧
          (∀ first ∈ run.1.requests, ∀ second ∈ run.1.requests,
            first.binding = second.binding → first.name = second.name) ∧
          (run.1.engine.edits.apply Sample.invoker).PrintsNames)) = some true := by
    simp only [Labeling.runPasses_eq_runTables, List.map_cons, List.map_nil,
      Pass.table_structural]
    decide +kernel
  obtain ⟨registry, hregistry, hanalysed⟩ := Option.bind_eq_some_iff.mp hobserved
  obtain ⟨s, hs, hseen⟩ := Option.map_eq_some_iff.mp hanalysed
  obtain ⟨hfinished, hcollisions, happlied, hsingle, hprints⟩ := of_decide_eq_true hseen
  have hkeys : Sample.invoker.KeysApart := by decide +kernel
  have hformed : Sample.invoker.WellFormed := ⟨rfl, by decide +kernel⟩
  have hr := toOption_eq_some_iff.mp hregistry
  have hrun : (Labeling.start s {} registry).runPasses Sample.invoker [Pass.structural] = (_, none) :=
    Prod.ext rfl hfinished
  exact ⟨registry, s, _, hr, toOption_eq_some_iff.mp hs, hformed, Sample.unshared_invoker, hkeys,
    hrun, hcollisions, happlied, hsingle, hprints,
    structural_run_settles (toOption_eq_some_iff.mp hs) hformed Sample.unshared_invoker hkeys hr hrun
      hcollisions hsingle hprints⟩

end Relabel
