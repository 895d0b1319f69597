import Mathlib.Data.List.Permutation
import Relabel.Proofs.Labeling.Recognition
import Relabel.Proofs.Labeling.Renames
import Relabel.Proofs.Labeling.Structure

/-!
# Labelling twice

A run without collisions leaves every binding with the last name that was asked for it. A second run
attempts no rename if its idioms ask for these names again, and only then. It does not matter
whether the second run works on the store that was kept or on an analysis of the labelled program:
as long as nothing is renamed, the two find the same. Asking again can give other names, since an
idiom may have read a name that a later pass changed.
-/

namespace Relabel

/-- A request for a name that its binding has. -/
def Request.InPlace (s : Store) (request : Request) : Prop :=
  ∀ b, s.bindings[request.binding]? = some b → b.name = request.name

namespace Engine

variable (engine : Engine) (idiom : String) (request : Request)

variable {engine} in
theorem rows_note_of_not_attempted {event : Event} (h : ∀ row, event ≠ .attempted row) :
    (engine.note event).rows = engine.rows := by
  cases event with
  | attempted row => exact absurd rfl (h row)
  | _ => simp [note, rows]

theorem rows_note_attempted (row : Row) :
    (engine.note (.attempted row)).rows = engine.rows ++ [row] := by
  simp [note, rows]

/-- What a request does: nothing if it is in place; otherwise it is carried out or refused, and
there is a row for it. -/
theorem rename_cases :
    (request.InPlace engine.store ∧ (engine.rename idiom request).1 = engine) ∨
      ∃ b row, engine.store.bindings[request.binding]? = some b ∧ b.name ≠ request.name ∧
        (engine.rename idiom request).1.rows = engine.rows ++ [row] ∧
        (row.refusal.isSome = true ∨ row.refusal = none ∧
          (engine.rename idiom request).1.store =
            engine.store.rekey request.binding b request.name) := by
  unfold rename Request.InPlace
  cases hb : engine.store.bindings[request.binding]? with
  | none => simp
  | some b =>
    by_cases hname : b.name = request.name
    · simp [hname]
    · right
      simp only [if_neg hname]
      cases hrename : engine.store.rename engine.edits request.binding request.name with
      | error collision => exact ⟨b, _, rfl, hname, rows_note_attempted _ _, .inl rfl⟩
      | ok result =>
        obtain ⟨hstore, -⟩ := Store.eq_of_rename_eq_ok hb hname hrename
        exact ⟨b, _, rfl, hname, rows_note_attempted _ _, .inr ⟨rfl, hstore⟩⟩

end Engine

/-- Once there is a row, there is one for the rest of the run. -/
theorem carried_rows : Carried fun engine _ ↦ engine.rows ≠ [] where
  request engine _ idiom request h := by
    rcases engine.rename_cases idiom request with ⟨-, hsame⟩ | ⟨b, row, -, -, hrows, -⟩
    · rwa [hsame]
    · simp [hrows]
  note engine _ event hevent h := by
    rwa [Engine.rows_note_of_not_attempted hevent]

/-- There is no row as long as all requests are in place, and then nothing is changed. -/
theorem carried_idle (s : Store) (e : Edits) : Carried fun engine requests ↦
    (engine.rows = [] ↔ ∀ request ∈ requests, request.InPlace s) ∧
      (engine.rows = [] → engine.store = s ∧ engine.edits = e) where
  request engine requests idiom request h := by
    obtain ⟨hidle, hkept⟩ := h
    simp only [List.forall_mem_append, List.forall_mem_singleton, ← hidle]
    rcases engine.rename_cases idiom request with ⟨hplace, hsame⟩ | ⟨b, row, hb, hne, hrows, -⟩
    · rw [hsame]
      exact ⟨⟨fun hnone ↦ ⟨hnone, (hkept hnone).1 ▸ hplace⟩, And.left⟩, hkept⟩
    · have hstirred : engine.rows ++ [row] ≠ [] := by simp
      rw [hrows]
      refine ⟨⟨fun hnone ↦ absurd hnone hstirred, fun hresting ↦ ?_⟩,
        fun hnone ↦ absurd hnone hstirred⟩
      obtain ⟨hnone, hplace⟩ := hresting
      rw [← (hkept hnone).1] at hplace
      exact absurd (hplace b hb) hne
  note engine requests event hevent h := by
    rw [Engine.rows_note_of_not_attempted hevent]
    exact h

/-- A run without collisions gives every binding the last name that was asked for it. -/
theorem carried_names (s : Store) : Carried fun engine requests ↦
    engine.collisions = [] → ∀ id : BindingId, engine.store.bindings[id]?.map (·.name) =
      s.bindings[id]?.map fun b ↦ (lastName? requests id).getD b.name where
  request engine requests idiom request h := by
    intro hnone id
    have hasked (hbefore : engine.collisions = []) :
        (s.bindings[request.binding]?.map fun _ ↦ request.name) =
          engine.store.bindings[request.binding]?.map fun _ ↦ request.name := by
      have hnames := congrArg (Option.map fun _ ↦ request.name) (h hbefore request.binding)
      simpa only [Option.map_map, Function.comp_def] using hnames.symm
    rw [lastName?_append_singleton]
    rcases engine.rename_cases idiom request with ⟨hplace, hsame⟩ | ⟨b, row, hb, hne, hrows, hrow⟩
    · rw [hsame] at hnone ⊢
      by_cases hid : request.binding = id
      · subst hid
        simp only [if_true, Option.getD_some, hasked hnone]
        exact Option.map_congr hplace
      · simpa only [if_neg hid] using h hnone id
    · rw [Engine.collisions, hrows, List.filter_append, List.append_eq_nil_iff] at hnone
      rcases hrow with hrefused | ⟨-, hstore⟩
      · simp [hrefused] at hnone
      · rw [hstore, Store.getElem?_bindings_rekey]
        by_cases hid : request.binding = id
        · subst hid
          simp only [if_true, Option.getD_some, hasked hnone.1, Option.map_map]
          rfl
        · simpa only [if_neg hid] using h hnone.1 id
  note engine requests event hevent h := by
    rw [Engine.collisions, Engine.rows_note_of_not_attempted hevent]
    exact h

/-! ## A run on the kept store beside a run on a new analysis -/

theorem Request.inPlace_iff (s : Store) (request : Request) :
    request.InPlace s ↔
      ∀ name, s.bindings[request.binding]?.map (·.name) = some name → name = request.name := by
  simp [InPlace]

/-- An engine that has attempted nothing attempts nothing as long as requests are in place. -/
theorem Engine.apply_of_idle {engine : Engine} (h : engine.rows = []) (idiom : String)
    (requests : List Request) :
    ((engine.apply idiom requests).1.rows = [] ↔
        ∀ request ∈ requests, request.InPlace engine.store) ∧
      ((engine.apply idiom requests).1.rows = [] →
        (engine.apply idiom requests).1.store = engine.store ∧
          (engine.apply idiom requests).1.edits = engine.edits) := by
  have hidle := (carried_idle engine.store engine.edits).apply [] ⟨by simp [h], fun _ ↦ ⟨rfl, rfl⟩⟩
    idiom requests
  rwa [List.nil_append] at hidle

namespace Labeling

/-- Goes on with a run unless it ended with a fault. -/
def proceed (run : Labeling × Option Fault) (next : Labeling → Labeling × Option Fault) :
    Labeling × Option Fault :=
  match run with
  | (l, some fault) => (l, some fault)
  | (l, none) => next l

theorem sweep_cons (l : Labeling) (table : Table Kind (List Idiom)) {n : Node}
    (htyped : n.isTyped = true) (parent : Option Node) (rest : List (Node × Option Node)) :
    l.sweep table ((n, parent) :: rest) =
      proceed (l.visit n ((n.kind.bind table.get?).getD [])) fun l ↦
        l.sweep table (l.descents n ++ rest) := by
  rw [sweep, if_pos htyped]
  rfl

/-- A run on a program with edits and a run on the edited program, both of which have attempted
nothing yet. -/
structure Abreast (kept fresh : Recognition.Context) (l l' : Labeling) : Prop where
  context : l.context = kept
  context' : l'.context = fresh
  idle : l.engine.rows = []
  idle' : l'.engine.rows = []
  registry : l'.registry = l.registry

/-- A node and its parent as edits leave them. -/
def edited (e : Edits) (entry : Node × Option Node) : Node × Option Node :=
  (e.apply entry.1, entry.2.map e.apply)

/-- Two runs are still abreast and ended in the same way, or both have attempted something. -/
inductive Parallel (kept fresh : Recognition.Context) (run run' : Labeling × Option Fault) : Prop
  | idle (abreast : Abreast kept fresh run.1 run'.1) (fault : run'.2 = run.2)
  | stirred (rows : run.1.engine.rows ≠ []) (rows' : run'.1.engine.rows ≠ [])

variable {kept fresh : Recognition.Context} {l l' : Labeling}

/-- Runs that are parallel stay so, if they go on in parallel while they are abreast, and neither
takes back what it has attempted. -/
theorem Parallel.proceed {run run' : Labeling × Option Fault} (h : Parallel kept fresh run run')
    (next next' : Labeling → Labeling × Option Fault)
    (hnext : ∀ l l', run = (l, none) → Abreast kept fresh l l' →
      Parallel kept fresh (next l) (next' l'))
    (hrows : ∀ l, l.engine.rows ≠ [] → (next l).1.engine.rows ≠ [])
    (hrows' : ∀ l, l.engine.rows ≠ [] → (next' l).1.engine.rows ≠ []) :
    Parallel kept fresh (proceed run next) (proceed run' next') := by
  rcases run with ⟨l, fault⟩
  rcases run' with ⟨l', fault'⟩
  cases h with
  | idle habreast hfault =>
    obtain rfl : fault' = fault := hfault
    cases fault' with
    | none => exact hnext l l' rfl habreast
    | some fault => exact .idle habreast rfl
  | stirred hstirred hstirred' =>
    apply Parallel.stirred
    · cases fault with
      | none => exact hrows l hstirred
      | some fault => exact hstirred
    · cases fault' with
      | none => exact hrows' l' hstirred'
      | some fault => exact hstirred'

namespace Abreast

theorem edits_eq (h : Abreast kept fresh l l') : l.engine.edits = kept.edits :=
  congrArg (·.edits) h.context

section Edited

variable (hfresh : fresh.edits = {})
include hfresh

theorem edits_eq' (h : Abreast kept fresh l l') : l'.engine.edits = {} :=
  (congrArg (·.edits) h.context').trans hfresh

theorem descents (h : Abreast kept fresh l l') (n : Node) :
    l'.descents (kept.edits.apply n) = (l.descents n).map (edited kept.edits) := by
  rw [Labeling.descents, h.edits_eq' hfresh, Edits.look_empty, Edits.children_apply,
    Labeling.descents, h.edits_eq, List.map_map, List.map_map]
  rfl

end Edited

variable (halike : kept.Alike fresh)
include halike

/-- The same requests are in place in both runs. -/
theorem apply (h : Abreast kept fresh l l') (idiom : String) (requests : List Request)
    (found found' : List Match) :
    Parallel kept fresh
      ({ l with engine := (l.engine.apply idiom requests).1, found }, none)
      ({ l' with engine := (l'.engine.apply idiom requests).1, found := found' }, none) := by
  obtain ⟨hrows, hkept⟩ := Engine.apply_of_idle h.idle idiom requests
  obtain ⟨hrows', hkept'⟩ := Engine.apply_of_idle h.idle' idiom requests
  have hstore : l.engine.store = kept.store := congrArg (·.store) h.context
  have hstore' : l'.engine.store = fresh.store := congrArg (·.store) h.context'
  have hplace (request : Request) :
      request.InPlace l'.engine.store ↔ request.InPlace l.engine.store := by
    rw [Request.inPlace_iff, Request.inPlace_iff, hstore, hstore', halike.names_eq]
  simp only [hplace, ← hrows] at hrows'
  by_cases hidle : (l.engine.apply idiom requests).1.rows = []
  · refine .idle ⟨?_, ?_, hidle, hrows'.mpr hidle, h.registry⟩ rfl
    · obtain ⟨hsame, hedits⟩ := hkept hidle
      rw [← h.context, Labeling.context, hsame, hedits, Labeling.context]
    · obtain ⟨hsame, hedits⟩ := hkept' (hrows'.mpr hidle)
      rw [← h.context', Labeling.context, hsame, hedits, Labeling.context]
  · exact .stirred hidle (mt hrows'.mp hidle)

variable (hfresh : fresh.edits = {})
include hfresh

theorem ask (h : Abreast kept fresh l l') (n : Node) (idiom : Idiom) :
    ∃ answer registry, l.ask n idiom = (answer, { l with registry }) ∧
      l'.ask (kept.edits.apply n) idiom = (answer, { l' with registry }) := by
  let result := (idiom.recognise kept (kept.edits.apply n)).run l.registry
  refine ⟨result.1, result.2, ?_, ?_⟩
  · rw [Labeling.ask, h.context, h.edits_eq]
    rfl
  · rw [Labeling.ask, h.context', h.edits_eq' hfresh, Edits.apply_empty, halike.recognise_eq,
      h.registry]
    rfl

theorem visit (h : Abreast kept fresh l l') (n : Node) (idioms : List Idiom) :
    Parallel kept fresh (l.visit n idioms) (l'.visit (kept.edits.apply n) idioms) := by
  induction idioms generalizing l l' with
  | nil => exact .idle h rfl
  | cons idiom rest ih =>
    obtain ⟨answer, registry, hask, hask'⟩ := h.ask halike hfresh n idiom
    have hnext : Abreast kept fresh { l with registry } { l' with registry } :=
      ⟨h.context, h.context', h.idle, h.idle', rfl⟩
    rw [Labeling.visit, Labeling.visit, hask, hask']
    rcases answer with fault | _ | requests
    · exact .idle hnext rfl
    · exact ih hnext
    · exact hnext.apply halike idiom.label requests _ _

theorem sweep (h : Abreast kept fresh l l') (table : Table Kind (List Idiom))
    (stack : List (Node × Option Node)) :
    Parallel kept fresh (l.sweep table stack) (l'.sweep table (stack.map (edited kept.edits))) := by
  fun_induction Labeling.sweep l table stack generalizing l' with
  | case1 l =>
    rw [List.map_nil, Labeling.sweep]
    exact .idle h rfl
  | case2 l n parent rest htyped idioms next fault =>
    rename_i hvisit
    have hparallel := h.visit halike hfresh n idioms
    rw [List.map_cons, edited, sweep_cons l' table (by rwa [Edits.isTyped_apply]), Edits.kind_apply]
    rw [hvisit] at hparallel
    refine hparallel.proceed (fun l ↦ (l, none)) _ (fun _ _ hrun ↦ ?_) (fun _ hrows ↦ hrows)
      fun _ hrows ↦ carried_rows.sweep table hrows _
    simp at hrun
  | case3 l n parent rest htyped idioms next hvisit =>
    rename_i ih
    have hparallel := h.visit halike hfresh n idioms
    rw [hvisit] at hparallel
    rw [List.map_cons, edited, sweep_cons l' table (by rwa [Edits.isTyped_apply]), Edits.kind_apply]
    refine hparallel.proceed (fun l ↦ l.sweep table (l.descents n ++ rest)) _ ?_
      (fun _ hrows ↦ carried_rows.sweep table hrows _)
      fun _ hrows ↦ carried_rows.sweep table hrows _
    rintro _ next' hrun habreast
    obtain ⟨rfl, -⟩ := Prod.mk.inj hrun
    rw [habreast.descents hfresh, ← List.map_append]
    exact ih habreast
  | case4 l n parent rest htyped =>
    rw [List.map_cons, edited, Labeling.sweep, if_neg (by rwa [Edits.isTyped_apply])]
    refine .idle h ?_
    cases parent <;> simp

theorem runPass (h : Abreast kept fresh l l') (tree : Node) (pass : Pass) :
    Parallel kept fresh (l.runPass tree pass) (l'.runPass (kept.edits.apply tree) pass) := by
  have hidle {engine : Engine} (hrows : engine.rows = []) {event : Event}
      (hevent : ∀ row, event ≠ .attempted row) : (engine.note event).rows = [] :=
    (Engine.rows_note_of_not_attempted hevent).trans hrows
  have hstarted : Abreast kept fresh (l.note (.passStarted pass.name))
      (l'.note (.passStarted pass.name)) :=
    ⟨h.context, h.context', hidle h.idle (by simp), hidle h.idle' (by simp), h.registry⟩
  refine (hstarted.sweep halike hfresh pass.table [(tree, none)]).proceed _ _ ?_ ?_ ?_
  · intro next next' _ habreast
    exact .idle ⟨habreast.context, habreast.context', hidle habreast.idle (by simp),
      hidle habreast.idle' (by simp), habreast.registry⟩ rfl
  · exact fun _ hrows ↦ carried_rows.note _ [] _ (by simp) hrows
  · exact fun _ hrows ↦ carried_rows.note _ [] _ (by simp) hrows

theorem runPasses (h : Abreast kept fresh l l') (tree : Node) (passes : List Pass) :
    Parallel kept fresh (l.runPasses tree passes)
      (l'.runPasses (kept.edits.apply tree) passes) := by
  induction passes generalizing l l' with
  | nil => exact .idle h rfl
  | cons pass rest ih =>
    refine (h.runPass halike hfresh tree pass).proceed _ _ ?_ ?_ ?_
    · exact fun _ _ _ habreast ↦ ih habreast
    · exact fun _ hrows ↦ carried_rows.runPasses hrows tree rest
    · exact fun _ hrows ↦ carried_rows.runPasses hrows _ rest

end Abreast

/-- A run came to its end without an attempt to rename anything, and left the program as it was. -/
structure Rests (tree : Node) (run : Labeling × Option Fault) : Prop where
  finished : run.2 = none
  idle : run.1.engine.rows = []
  unchanged : run.1.engine.edits.apply tree = tree

/-- A run asks for each binding what an earlier run asked last, or for the name that it had in the
store at first if the earlier run did not ask for any. -/
def Repeats (s : Store) (earlier l : Labeling) : Prop :=
  ∀ request ∈ l.requests, ∀ b ∈ s.bindings[request.binding]?,
    (lastName? earlier.requests request.binding).getD b.name = request.name

instance (s : Store) (earlier l : Labeling) : Decidable (Repeats s earlier l) :=
  inferInstanceAs (Decidable (∀ request ∈ l.requests, ∀ b ∈ s.bindings[request.binding]?,
    (lastName? earlier.requests request.binding).getD b.name = request.name))

variable {tree : Node} {s : Store} {e : Edits} {registry : Registry} {passes : List Pass}
  {l : Labeling} {fault : Option Fault}

/-- A run attempts nothing if and only if all its requests are in place. -/
theorem idle_iff_of_run (h : (start s e registry).runPasses tree passes = (l, fault)) :
    l.engine.rows = [] ↔ ∀ request ∈ l.requests, request.InPlace s := by
  have hidle := (carried_idle s e).runPasses (l := start s e registry)
    ⟨by simp [start, requests, Engine.rows], fun _ ↦ ⟨rfl, rfl⟩⟩ tree passes
  rw [h] at hidle
  exact hidle.1

/-- After a run without collisions a binding has the last name that was asked for it. -/
theorem names_of_run (h : (start s e registry).runPasses tree passes = (l, fault))
    (hcollisions : l.engine.collisions = []) (id : BindingId) :
    l.engine.store.bindings[id]?.map (·.name) =
      s.bindings[id]?.map fun b ↦ (lastName? l.requests id).getD b.name := by
  have hnames := (carried_names s).runPasses (l := start s e registry)
    (fun _ _ ↦ by simp [start, requests]) tree passes
  rw [h] at hnames
  exact hnames hcollisions id

/-- After a run without collisions the names in place are those that were asked last. -/
theorem inPlace_iff_of_run (h : (start s e registry).runPasses tree passes = (l, fault))
    (hcollisions : l.engine.collisions = []) (request : Request) :
    request.InPlace l.engine.store ↔ ∀ b ∈ s.bindings[request.binding]?,
      (lastName? l.requests request.binding).getD b.name = request.name := by
  rw [Request.inPlace_iff, names_of_run h hcollisions]
  simp

end Labeling

/-- After any calls on a program, a run on the edited program is parallel to a run that goes on with
the kept store. -/
theorem Engine.Reachable.exists_parallel {tree : Node} {s : Store} {engine : Engine}
    (h : engine.Reachable tree s) (hunshared : tree.Unshared) (hkeys : tree.NamesKeys)
    (registry : Registry) (passes : List Pass) :
    ∃ fresh, Store.analyze (engine.edits.apply tree) = .ok fresh ∧
      Labeling.Parallel ⟨engine.store, engine.edits⟩ ⟨fresh, {}⟩
        ((Labeling.start engine.store engine.edits registry).runPasses tree passes)
        ((Labeling.start fresh {} registry).runPasses (engine.edits.apply tree) passes) := by
  obtain ⟨facts, facts', hfacts, -, hfresh, hreanalysed⟩ := h.reanalysed hunshared hkeys
  have halike := hreanalysed.alike
    (Program.nodup_sites (hunshared.nodup_variableIds hkeys) hfacts)
  have hstart : Labeling.Abreast ⟨engine.store, engine.edits⟩ ⟨Store.ofFacts facts', {}⟩
      (Labeling.start engine.store engine.edits registry)
      (Labeling.start (Store.ofFacts facts') {} registry) := ⟨rfl, rfl, rfl, rfl, rfl⟩
  exact ⟨Store.ofFacts facts', hfresh, hstart.runPasses halike rfl tree passes⟩

/-- A run on the edited program rests if and only if a run that goes on with the kept store comes to
its end and attempts nothing. -/
theorem Engine.Reachable.rests_iff {tree : Node} {s : Store} {engine : Engine}
    (h : engine.Reachable tree s) (hunshared : tree.Unshared) (hkeys : tree.NamesKeys)
    {registry : Registry} {passes : List Pass} {again : Labeling} {fault : Option Fault}
    (hagain : (Labeling.start engine.store engine.edits registry).runPasses tree passes =
      (again, fault)) :
    ∃ fresh, Store.analyze (engine.edits.apply tree) = .ok fresh ∧
      (Labeling.Rests (engine.edits.apply tree)
          ((Labeling.start fresh {} registry).runPasses (engine.edits.apply tree) passes) ↔
        fault = none ∧ again.engine.rows = []) := by
  obtain ⟨fresh, hfresh, hparallel⟩ := h.exists_parallel hunshared hkeys registry passes
  rw [hagain] at hparallel
  refine ⟨fresh, hfresh, ?_, ?_⟩
  · rintro ⟨hfinished, hidle, -⟩
    cases hparallel with
    | idle habreast hfault => exact ⟨hfault.symm.trans hfinished, habreast.idle⟩
    | stirred _ hstirred => exact absurd hidle hstirred
  · rintro ⟨hfinished, hidle⟩
    cases hparallel with
    | idle habreast hfault =>
      refine ⟨hfault.trans hfinished, habreast.idle', ?_⟩
      rw [habreast.edits_eq' rfl, Edits.apply_empty]
    | stirred hstirred _ => exact absurd hidle hstirred

/-- After a run without collisions, a run on the labelled program rests if and only if a run that
goes on with the kept store comes to its end and repeats what the first run asked for. -/
theorem rests_iff_repeats {tree : Node} {s : Store} {registry : Registry} {passes : List Pass}
    {l again : Labeling} {fault fault' : Option Fault} (hs : Store.analyze tree = .ok s)
    (hunshared : tree.Unshared) (hkeys : tree.NamesKeys)
    (hrun : (Labeling.start s {} registry).runPasses tree passes = (l, fault))
    (hcollisions : l.engine.collisions = [])
    (hagain : (Labeling.start l.engine.store l.engine.edits registry).runPasses tree passes =
      (again, fault')) :
    ∃ fresh, Store.analyze (l.engine.edits.apply tree) = .ok fresh ∧
      (Labeling.Rests (l.engine.edits.apply tree)
          ((Labeling.start fresh {} registry).runPasses (l.engine.edits.apply tree) passes) ↔
        fault' = none ∧ Labeling.Repeats s l again) := by
  have hreachable : l.engine.Reachable tree s :=
    ⟨hs, [.label registry passes], congrArg (·.1.engine) hrun.symm⟩
  have hrepeats : again.engine.rows = [] ↔ Labeling.Repeats s l again := by
    simp only [Labeling.idle_iff_of_run hagain, Labeling.inPlace_iff_of_run hrun hcollisions]
    rfl
  rw [← hrepeats]
  exact hreachable.rests_iff hunshared hkeys hagain

/-! ## A name that is read before it is final -/

namespace Labeling

/-- Runs passes of which only the names and the tables are given. -/
def runTables (l : Labeling) (tree : Node) :
    List (String × Table Kind (List Idiom)) → Labeling × Option Fault
  | [] => (l, none)
  | (name, table) :: rest =>
    proceed ((l.note (.passStarted name)).sweep table [(tree, none)]) fun next ↦
      let next := next.note (.passFinished name (next.found.length - l.found.length))
      { next with passes := next.passes ++ [name] }.runTables tree rest

theorem runPasses_eq_runTables (l : Labeling) (tree : Node) (passes : List Pass) :
    l.runPasses tree passes =
      l.runTables tree (passes.map fun pass ↦ (pass.name, pass.table)) := by
  induction passes generalizing l with
  | nil => rfl
  | cons pass rest ih =>
    simp only [runPasses, runPass, List.map_cons, runTables, ih]
    rcases (l.note (.passStarted pass.name)).sweep pass.table [(tree, none)] with ⟨next, fault⟩
    cases fault <;> rfl

end Labeling

/-- The idioms of the standard passes in the order in which they are asked. -/
theorem Pass.tables_standard : standard.map (fun pass ↦ (pass.name, pass.table)) =
    [("structural", ⟨[(.variableDeclarator, [.handlerMap, .polyfillAccessor]),
        (.catchClause, [.catchParameter]), (.variableDeclaration, [.guardedInvoker]),
        (.functionDeclaration, [.chartDecode, .standardDecode, .performanceNow])]⟩),
      ("wrappers", ⟨[(.functionDeclaration, [.wrapper, .stringGuard])]⟩),
      ("getters", ⟨[(.functionDeclaration, [.simpleGetter])]⟩),
      ("parameters", ⟨[(.functionDeclaration, [.handlerParameters])]⟩)] := by
  cbv

namespace Sample

/-- `var m = { bake: f }; function f(a) { function g() { return a; } }`, where `g` may return
something else. -/
def getter (returned : String) : Node :=
  node 0 .program
    [(.body, some (.mk
      { id := ⟨1, false⟩, kind := some .variableDeclaration, variety := some "var" }
      [(.declarations, some (node 2 .variableDeclarator [(.id, some (name 3 "m")),
        (.init, some (node 4 .objectExpression [(.properties, some (.mk
          { id := ⟨5, false⟩, kind := some .property, variety := some "init" }
          [(.key, some (name 6 "bake")), (.value, some (name 7 "f"))]))]))]))])),
      (.body, some (node 8 .functionDeclaration [(.id, some (name 9 "f")),
        (.params, some (name 10 "a")), (.body, some (node 11 .blockStatement
          [(.body, some (node 12 .functionDeclaration [(.id, some (name 13 "g")),
            (.body, some (node 14 .blockStatement [(.body, some (node 15 .returnStatement
              [(.argument, some (name 16 returned))]))]))]))]))]))]

/-- A registry that knows the parameters of one handler. -/
def registry? : Except RegistryFault Registry :=
  Registry.create "___" Role.defaultDescriptor (defaultParameterRoles.take 1)

/-- What is seen when a program is labelled, labelled once more with the kept store, and analysed
and labelled anew. -/
structure Relabelled where
  faults : List (Option Fault)
  collisions : List Row
  applied : Nat
  repeats : Bool
  names : Option (List String)
  namesAgain : Option (List String)
deriving DecidableEq

def relabel (run : Labeling → Node → Labeling × Option Fault) (registry : Registry) (s : Store)
    (tree : Node) : Option Relabelled :=
  let first := run (Labeling.start s {} registry) tree
  let again := run (Labeling.start first.1.engine.store first.1.engine.edits registry) tree
  let labelled := first.1.engine.edits.apply tree
  (Store.analyze labelled).toOption.map fun fresh ↦
    let second := run (Labeling.start fresh {} registry) labelled
    { faults := [first.2, again.2, second.2]
      collisions := first.1.engine.collisions
      applied := first.1.engine.applied.length
      repeats := Labeling.Repeats s first.1 again.1
      names := labelled.identifierNames.toOption
      namesAgain := (second.1.engine.edits.apply labelled).identifierNames.toOption }

theorem unshared_getter (returned : String) : (getter returned).Unshared where
  identity := eq_of_id_eq (getter returned).nodes (List.range 17) rfl (by
    show ((List.range 17).map fun index ↦ (⟨index, false⟩ : NodeId)).Nodup
    decide +kernel)
  distinct := by
    show ((List.range' 1 16).map fun index ↦ (⟨index, false⟩ : NodeId)).Nodup
    decide +kernel

end Sample

/-- A getter of the handler map is named after the name that the map has in the end. -/
theorem rests_iff_repeats_getter :
    ∃ registry s l again, Sample.registry? = .ok registry ∧
      Store.analyze (Sample.getter "m") = .ok s ∧ (Sample.getter "m").Unshared ∧
      (Sample.getter "m").NamesKeys ∧
      (Labeling.start s {} registry).runPasses (Sample.getter "m") Pass.standard = (l, none) ∧
      l.engine.collisions = [] ∧ l.engine.applied.length = 4 ∧
      (Labeling.start l.engine.store l.engine.edits registry).runPasses (Sample.getter "m")
        Pass.standard = (again, none) ∧ Labeling.Repeats s l again ∧
      ∃ fresh, Store.analyze (l.engine.edits.apply (Sample.getter "m")) = .ok fresh ∧
        Labeling.Rests (l.engine.edits.apply (Sample.getter "m"))
          ((Labeling.start fresh {} registry).runPasses
            (l.engine.edits.apply (Sample.getter "m")) Pass.standard) := by
  have hobserved : (Sample.registry?.toOption.bind fun registry ↦
      (Store.analyze (Sample.getter "m")).toOption.bind fun s ↦
        Sample.relabel (·.runPasses · Pass.standard) registry s (Sample.getter "m")) = some
          { faults := [none, none, none]
            collisions := []
            applied := 4
            repeats := true
            names := some ["___responseHandlers", "bake", "___bakeHandler", "___bakeHandler",
              "name", "___get____responseHandlers", "___responseHandlers"]
            namesAgain := some ["___responseHandlers", "bake", "___bakeHandler",
              "___bakeHandler", "name", "___get____responseHandlers", "___responseHandlers"] } := by
    simp only [Labeling.runPasses_eq_runTables, Pass.tables_standard]
    decide +kernel
  obtain ⟨registry, hregistry, hanalysed⟩ := Option.bind_eq_some_iff.mp hobserved
  obtain ⟨s, hs, hrelabel⟩ := Option.bind_eq_some_iff.mp hanalysed
  obtain ⟨_, -, hseen⟩ := Option.map_eq_some_iff.mp hrelabel
  simp only [Sample.Relabelled.mk.injEq, List.cons.injEq, decide_eq_true_eq] at hseen
  obtain ⟨⟨hfinished, hfinished', -⟩, hcollisions, happlied, hrepeats, -⟩ := hseen
  have hkeys : (Sample.getter "m").NamesKeys := by decide +kernel
  have hreturned {run : Labeling × Option Fault} (h : run.2 = none) : run = (run.1, none) :=
    Prod.ext rfl h
  obtain ⟨fresh, hfresh, hrests⟩ := rests_iff_repeats (toOption_eq_some_iff.mp hs)
    (Sample.unshared_getter "m") hkeys (hreturned hfinished) hcollisions (hreturned hfinished')
  exact ⟨registry, s, _, _, toOption_eq_some_iff.mp hregistry, toOption_eq_some_iff.mp hs,
    Sample.unshared_getter "m", hkeys, hreturned hfinished, hcollisions, happlied,
    hreturned hfinished', hrepeats, fresh, hfresh, hrests.mpr ⟨rfl, hrepeats⟩⟩

/-- A getter of a parameter is named before the parameter is. A second run finds the parameter with
its final name and renames the getter. -/
theorem renamed_again_if_named_early :
    (Sample.getter "a").WellFormed ∧ (Sample.getter "a").Unshared ∧
      ∃ registry s fresh, Sample.registry? = .ok registry ∧
        Store.analyze (Sample.getter "a") = .ok s ∧
        (let first := (Labeling.start s {} registry).runPasses (Sample.getter "a") Pass.standard
        let labelled := first.1.engine.edits.apply (Sample.getter "a")
        first.2 = none ∧ first.1.engine.collisions = [] ∧ Store.analyze labelled = .ok fresh ∧
          (let second := (Labeling.start fresh {} registry).runPasses labelled Pass.standard
          second.2 = none ∧
            (second.1.engine.edits.apply labelled).identifierNames ≠
              labelled.identifierNames)) := by
  have hobserved : (Sample.registry?.toOption.bind fun registry ↦
      (Store.analyze (Sample.getter "a")).toOption.bind fun s ↦
        Sample.relabel (·.runPasses · Pass.standard) registry s (Sample.getter "a")) = some
          { faults := [none, none, none]
            collisions := []
            applied := 4
            repeats := false
            names := some ["___responseHandlers", "bake", "___bakeHandler", "___bakeHandler",
              "name", "___get_a", "name"]
            namesAgain := some ["___responseHandlers", "bake", "___bakeHandler",
              "___bakeHandler", "name", "___get_name", "name"] } := by
    simp only [Labeling.runPasses_eq_runTables, Pass.tables_standard]
    decide +kernel
  obtain ⟨registry, hregistry, hanalysed⟩ := Option.bind_eq_some_iff.mp hobserved
  obtain ⟨s, hs, hrelabel⟩ := Option.bind_eq_some_iff.mp hanalysed
  obtain ⟨fresh, hfresh, hseen⟩ := Option.map_eq_some_iff.mp hrelabel
  simp only [Sample.Relabelled.mk.injEq, List.cons.injEq] at hseen
  obtain ⟨⟨hfinished, -, hfinished', -⟩, hcollisions, -, -, hnames, hnamesAgain⟩ := hseen
  refine ⟨⟨rfl, by decide +kernel⟩, Sample.unshared_getter "a", registry, s, fresh,
    toOption_eq_some_iff.mp hregistry, toOption_eq_some_iff.mp hs, hfinished, hcollisions,
    toOption_eq_some_iff.mp hfresh, hfinished', fun hsame ↦ ?_⟩
  rw [hsame, hnames] at hnamesAgain
  exact absurd hnamesAgain (by decide)

end Relabel
