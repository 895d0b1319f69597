import Relabel.Proofs.Labeling.Idempotence
import Relabel.Proofs.Source.Reading

/-!
# How a labelling run ends

A run on a program that can be printed returns, unless the registry refuses a name that is computed
from the program: it is no identifier, or it has been issued to somebody else. No node is met that
carries no tag, and whatever is printed for a comparison can be printed, although it may have been
respelled before.
-/

namespace Relabel

/-- What holds of the idioms of a pass and their kinds holds of the entries of its table. -/
theorem forall_mem_foldl {Q : Kind → Idiom → Prop} {idioms : List Idiom}
    {table : Table Kind (List Idiom)} (hidioms : ∀ idiom ∈ idioms, Q idiom.kind idiom)
    (htable : ∀ kind entries, table.get? kind = some entries → ∀ idiom ∈ entries, Q kind idiom) :
    ∀ kind entries, (idioms.foldl (fun table idiom ↦
        table.set idiom.kind ((table.get? idiom.kind).getD [] ++ [idiom])) table).get? kind =
      some entries → ∀ idiom ∈ entries, Q kind idiom := by
  induction idioms generalizing table with
  | nil => exact htable
  | cons first rest ih =>
    refine ih (fun idiom hidiom ↦ hidioms idiom (List.mem_cons_of_mem first hidiom))
      fun kind entries hentries idiom hidiom ↦ ?_
    rw [Table.get?_set] at hentries
    split at hentries
    · rename_i hkind
      obtain rfl := Option.some.inj hentries
      subst hkind
      rcases List.mem_append.mp hidiom with hold | hnew
      · cases hfound : table.get? first.kind with
        | none => simp [hfound] at hold
        | some old =>
          rw [hfound] at hold
          exact htable _ old hfound idiom hold
      · obtain rfl := List.mem_singleton.mp hnew
        exact hidioms idiom List.mem_cons_self
    · exact htable kind entries hentries idiom hidiom

/-- The table of a pass has its idioms under their kinds. -/
theorem Pass.mem_of_get?_table {pass : Pass} {kind : Kind} {entries : List Idiom}
    (hentries : pass.table.get? kind = some entries) {idiom : Idiom} (hidiom : idiom ∈ entries) :
    idiom.kind = kind ∧ idiom ∈ pass.idioms := by
  have hempty : ∀ kind entries, ({} : Table Kind (List Idiom)).get? kind = some entries →
      ∀ idiom ∈ entries, idiom.kind = kind ∧ idiom ∈ pass.idioms := by
    simp
  exact forall_mem_foldl (Q := fun kind idiom ↦ idiom.kind = kind ∧ idiom ∈ pass.idioms)
    (fun idiom hidiom ↦ ⟨rfl, List.mem_mergeSort.mp hidiom⟩) hempty kind entries hentries idiom
    hidiom

/-- The idioms that a pass asks about a node are those of the pass for its kind. -/
theorem Pass.asked {pass : Pass} {n : Node} {idiom : Idiom}
    (hidiom : idiom ∈ (n.kind.bind pass.table.get?).getD []) :
    n.kind = some idiom.kind ∧ idiom ∈ pass.idioms := by
  cases hentries : n.kind.bind pass.table.get? with
  | none =>
    rw [hentries] at hidiom
    exact absurd hidiom List.not_mem_nil
  | some entries =>
    rw [hentries] at hidiom
    obtain ⟨kind, hkind, hentries⟩ := Option.bind_eq_some_iff.mp hentries
    obtain ⟨rfl, hmem⟩ := Pass.mem_of_get?_table hentries hidiom
    exact ⟨hkind, hmem⟩

/-- No pass asks anything about identifiers and literals. -/
theorem Pass.asked_nothing_of_isNaming (pass : Pass) {n : Node} (hn : n.isNaming = true) :
    (n.kind.bind pass.table.get?).getD [] = [] := by
  refine List.eq_nil_iff_forall_not_mem.mpr fun idiom hidiom ↦ ?_
  have hkind := (Pass.asked hidiom).1
  simp only [Node.isNaming, Node.isIdentifier, Node.hasKind, hkind] at hn
  cases idiom <;> exact absurd hn (by decide)

theorem Pass.asked_nothing (pass : Pass) {n : Node} (hn : n.isIdentifier = true) :
    (n.kind.bind pass.table.get?).getD [] = [] :=
  pass.asked_nothing_of_isNaming (by simp [Node.isNaming, hn])

/-! ## Runs -/

/-- A state that a run on a program reaches from a registry. -/
structure Labeling.Fits (l : Labeling) (tree : Node) (r : Registry) : Prop where
  later : r.Later l.registry
  context : l.context.Fits tree r

section Run

variable {tree : Node} {r : Registry} (htree : tree.Labelable)
  (hroles : r.parameterRoles = defaultParameterRoles)

include htree in
theorem Recognition.Context.Fits.rename {engine : Engine}
    (h : Context.Fits ⟨engine.store, engine.edits⟩ tree r) (idiom : String) {request : Request}
    (hname : r.Tidy → IsOneLine request.name) :
    Context.Fits ⟨(engine.rename idiom request).1.store, (engine.rename idiom request).1.edits⟩
      tree r := by
  refine ⟨(Store.preserved_orderly htree.unshared).engine_rename h.orderly idiom request,
    fun htidy ↦ ?_⟩
  unfold Engine.rename
  cases engine.store.bindings[request.binding]? with
  | none => exact h.worded htidy
  | some b =>
    by_cases hsame : b.name = request.name
    · simpa [hsame] using h.worded htidy
    · simp only [if_neg hsame]
      cases hrename : engine.store.rename engine.edits request.binding request.name with
      | error collision => exact h.worded htidy
      | ok result =>
        obtain ⟨store, edits⟩ := result
        change store.Worded edits
        rcases Store.rename_eq_ok_iff.mp hrename with ⟨-, rfl, rfl⟩ |
          ⟨old, hold, -, haccepted, rfl, rfl⟩
        · exact h.worded htidy
        · have hidentifier := (Store.refusal?_eq_none_iff_tests.mp haccepted).1.1
          exact (h.worded htidy).rekey hold (isWord_of_isIdentifier hidentifier (hname htidy))

include htree in
theorem Recognition.Context.Fits.apply {engine : Engine}
    (h : Context.Fits ⟨engine.store, engine.edits⟩ tree r) (idiom : String)
    {requests : List Request} (hnames : r.Tidy → ∀ request ∈ requests, IsOneLine request.name) :
    Context.Fits ⟨(engine.apply idiom requests).1.store, (engine.apply idiom requests).1.edits⟩
      tree r := by
  induction requests generalizing engine with
  | nil => exact h
  | cons request rest ih =>
    have hfirst := h.rename htree idiom fun htidy ↦ hnames htidy request List.mem_cons_self
    exact ih hfirst fun htidy other hother ↦ hnames htidy other (List.mem_cons_of_mem _ hother)

namespace Labeling

variable {l : Labeling}

include htree hroles

theorem Fits.ask (h : l.Fits tree r) {n : Node} (hn : n ∈ tree.nodes) (idiom : Idiom) :
    (l.ask n idiom).2.Fits tree r ∧
      match (l.ask n idiom).1 with
      | .ok found => r.Tidy → ∀ requests, found = some requests →
          ∀ request ∈ requests, IsOneLine request.name
      | .error fault => r.MayRaise (l.ask n idiom).2.registry fault := by
  obtain ⟨hlater, hanswer⟩ := Recognition.answers_recognise htree h.context hroles
    ⟨n, hn, rfl⟩ idiom l.registry h.later
  unfold Labeling.ask
  rw [show l.context.edits = l.engine.edits from rfl] at hlater hanswer
  generalize (idiom.recognise l.context _).run l.registry = result at hlater hanswer ⊢
  rcases result with ⟨fault | found, next⟩
  · exact ⟨⟨hlater, h.context⟩, hanswer⟩
  · exact ⟨⟨hlater, h.context⟩, hanswer⟩

/-- Asking an idiom and carrying out what it finds comes to its end, or a name is refused. -/
theorem Fits.step (h : l.Fits tree r) {n : Node} (hn : n ∈ tree.nodes) (idiom : Idiom) :
    Ends (·.Fits tree r) (fun l fault ↦ r.MayRaise l.registry fault) (l.visit n [idiom]) := by
  obtain ⟨hasked, hanswer⟩ := h.ask htree hroles hn idiom
  unfold Labeling.visit
  rcases hask : l.ask n idiom with ⟨fault | _ | requests, next⟩
  · rw [hask] at hasked hanswer
    exact .failed hasked hanswer
  · rw [hask] at hasked
    exact .finished hasked
  · rw [hask] at hasked hanswer
    refine .finished ⟨hasked.later, ?_⟩
    exact hasked.context.apply htree idiom.label fun htidy ↦ hanswer htidy requests rfl

omit htree hroles

/-- A node that a run can come to: a node of the program, or a new key. -/
def Visitable (tree n : Node) : Prop :=
  n ∈ tree.nodes ∨ n.isIdentifier = true ∧ n.branches = []

theorem Visitable.isTyped (htyped : ∀ n ∈ tree.nodes, n.isTyped = true) {n : Node}
    (hn : Visitable tree n) : n.isTyped = true := by
  rcases hn with hn | ⟨hidentifier, -⟩
  · exact htyped n hn
  · rw [Node.isTyped, Node.isIdentifier_iff.mp hidentifier]
    rfl

/-- Edits put new keys among what stands below a node, and nothing else. -/
theorem visitable_of_mem_children {e : Edits} {n : Node} (hn : Visitable tree n)
    {c : Field × Node} (hc : c ∈ (e.look n).children) : Visitable tree c.2 := by
  have hbranch : (c.1, some c.2) ∈ e.withKey n.id n.branches := Node.mem_children_iff.mp hc
  unfold Edits.withKey at hbranch
  rcases hn with hn | ⟨-, hnone⟩
  · split at hbranch
    · obtain ⟨⟨place, part⟩, hpart, hsame⟩ := List.mem_map.mp hbranch
      split at hsame
      · obtain ⟨-, hkey⟩ := Prod.mk.inj hsame
        rw [← Option.some.inj hkey]
        exact .inr ⟨rfl, rfl⟩
      · obtain ⟨rfl, rfl⟩ := Prod.mk.inj hsame
        exact .inl (Node.mem_nodes_of_mem_branches hn hpart)
    · exact .inl (Node.mem_nodes_of_mem_branches hn hbranch)
  · rw [hnone] at hbranch
    split at hbranch <;> exact absurd hbranch List.not_mem_nil

theorem visitable_of_mem_descents (l : Labeling) {n : Node} (hn : Visitable tree n)
    {entry : Node × Option Node} (hentry : entry ∈ l.descents n) : Visitable tree entry.1 := by
  obtain ⟨c, hc, rfl⟩ := List.mem_map.mp hentry
  exact visitable_of_mem_children hn hc

include htree hroles

/-- A pass asks no idioms about identifiers, so all nodes that idioms are asked about are nodes of
the program. -/
theorem fits_walks (pass : Pass) :
    Invariant (·.Fits tree r) (fun l fault ↦ r.MayRaise l.registry fault) (Visitable tree)
      pass.table where
  step l n idiom h hn hidiom := by
    rcases hn with hn | ⟨hidentifier, -⟩
    · exact h.step htree hroles hn idiom
    · rw [pass.asked_nothing hidentifier] at hidiom
      exact absurd hidiom List.not_mem_nil
  descents l _ hn _ hentry := visitable_of_mem_descents l hn hentry
  untyped _ _ _ _ hn huntyped := absurd (hn.isTyped htree.isTyped) huntyped

/-- All passes come to their end, or a name is refused. -/
theorem Fits.runPasses (h : l.Fits tree r) (passes : List Pass) :
    Ends (·.Fits tree r) (fun l fault ↦ r.MayRaise l.registry fault) (l.runPasses tree passes) :=
  have hthroughout : Throughout (·.Fits tree r) (fun l fault ↦ r.MayRaise l.registry fault)
      (Visitable tree) passes :=
    { walks := fun pass _ ↦ fits_walks htree hroles pass
      note := fun _ _ _ h ↦ ⟨h.later, h.context⟩
      finish := fun _ _ h ↦ ⟨h.later, h.context⟩ }
  hthroughout.runPasses (.inl tree.mem_nodes_self) h

omit htree hroles

theorem passes_sweep (l : Labeling) (table : Table Kind (List Idiom))
    (stack : List (Node × Option Node)) : (l.sweep table stack).1.passes = l.passes := by
  have hstep (l' : Labeling) (n : Node) (idiom : Idiom) (h : l'.passes = l.passes) :
      (l'.visit n [idiom]).1.passes = l.passes := by
    have hasked : (l'.ask n idiom).2.passes = l.passes := h
    unfold Labeling.visit
    rcases hask : l'.ask n idiom with ⟨fault | _ | requests, next⟩ <;> rwa [hask] at hasked
  exact ((Invariant.of_step hstep table).sweep rfl fun _ _ ↦ trivial).1

/-- A run that comes to its end has gone through all its passes. -/
theorem passes_runPasses {l : Labeling} {passes : List Pass}
    (h : (l.runPasses tree passes).2 = none) :
    (l.runPasses tree passes).1.passes = l.passes ++ passes.map (·.name) := by
  induction passes generalizing l with
  | nil => exact (List.append_nil _).symm
  | cons pass rest ih =>
    have hswept := passes_sweep (l.note (.passStarted pass.name)) pass.table [(tree, none)]
    unfold Labeling.runPasses Labeling.runPass at h ⊢
    rcases hsweep : (l.note (.passStarted pass.name)).sweep pass.table [(tree, none)] with
      ⟨next, fault | _⟩
    · rw [hsweep] at h hswept
      dsimp only at h hswept ⊢
      rw [ih h]
      change next.passes ++ [pass.name] ++ rest.map (·.name) = l.passes ++ _
      rw [hswept, List.append_assoc]
      rfl
    · rw [hsweep] at h
      injection h

end Labeling

end Run

/-- A program that is read from a text and can be printed with all its parts is labelled by the
standard passes, whatever the lead and the descriptors, and all passes are run, unless a computed
name is refused: it is no identifier, or somebody else has it. Only if a canonical name is not on
one line can it be that something cannot be printed. -/
theorem returns_unless_refused {text : String} {source : Source}
    (hread : Source.parse text = .ok source) (hprintable : source.tree.Printable) {lead : String}
    {descriptors : Descriptors} {r : Registry}
    (hr : Registry.create lead descriptors defaultParameterRoles = .ok r) :
    ∃ s, Store.analyze source.tree = .ok s ∧ ∀ l outcome,
      (Labeling.start s {} r).runPasses source.tree Pass.standard = (l, outcome) →
        (outcome = none ∧ l.passes = Pass.standard.map (·.name)) ∨
        ∃ fault, outcome = some fault ∧ (l.registry.Refuses fault ∨
          (∃ reason, fault = .printing reason) ∧ ∃ role, ¬ IsOneLine (r.nameFor role)) := by
  have htree := Source.labelable_of_parse hread hprintable
  obtain ⟨facts, hfacts⟩ := Program.exists_facts_of_isTyped htree.isTyped
  have hanalyze : Store.analyze source.tree = .ok (Store.ofFacts facts) :=
    Store.analyze_eq_ok_iff.mpr ⟨beq_iff_eq.mpr htree.program, facts, hfacts, rfl⟩
  refine ⟨_, hanalyze, fun l outcome hrun ↦ ?_⟩
  have hroles : r.parameterRoles = defaultParameterRoles :=
    (Registry.later_of_foldlM_claimRole hr).1.parameterRoles
  have hstart : (Labeling.start (Store.ofFacts facts) {} r).Fits source.tree r :=
    ⟨.refl r, Store.orderly_analyze hanalyze, fun _ ↦
      Store.worded_analyze hanalyze hprintable⟩
  have hend := hstart.runPasses htree hroles Pass.standard
  cases outcome with
  | none =>
    have hpasses := Labeling.passes_runPasses (congrArg Prod.snd hrun)
    rw [hrun] at hpasses
    exact .inl ⟨rfl, hpasses⟩
  | some fault =>
    rw [hrun] at hend
    refine .inr ⟨fault, rfl, (hend.2 fault rfl).imp_right (And.imp_right fun htidy ↦ ?_)⟩
    unfold Registry.Tidy at htidy
    push Not at htidy
    exact htidy

namespace Sample

/-- What comes of a run on a text all of whose parts can be printed, with a registry that has its
default settings. -/
def outcome? (text : String) : Option (Option Fault) := do
  let source ← (Source.parse text).toOption
  guard (∀ n ∈ source.tree.nodes, n.render.toOption.isSome = true)
  let r ← (Registry.create "___" Role.defaultDescriptor defaultParameterRoles).toOption
  let s ← (Store.analyze source.tree).toOption
  return ((Labeling.start s {} r).runPasses source.tree Pass.standard).2

theorem exists_of_outcome? {text : String} {outcome : Option Fault}
    (h : outcome? text = some outcome) :
    ∃ source r s l, Source.parse text = .ok source ∧ source.tree.Printable ∧
      Registry.create "___" Role.defaultDescriptor defaultParameterRoles = .ok r ∧
      Store.analyze source.tree = .ok s ∧
      (Labeling.start s {} r).runPasses source.tree Pass.standard = (l, outcome) := by
  obtain ⟨source, hsource, hprinted⟩ := Option.bind_eq_some_iff.mp h
  obtain ⟨_, hguard, hcreated⟩ := Option.bind_eq_some_iff.mp hprinted
  obtain ⟨r, hr, hanalysed⟩ := Option.bind_eq_some_iff.mp hcreated
  obtain ⟨s, hs, hend⟩ := Option.bind_eq_some_iff.mp hanalysed
  refine ⟨source, r, s, _, toOption_eq_some_iff.mp hsource, fun n hn ↦ ?_,
    toOption_eq_some_iff.mp hr, toOption_eq_some_iff.mp hs, Prod.ext rfl (Option.some.inj hend)⟩
  have hall : ∀ n ∈ source.tree.nodes, n.render.toOption.isSome = true := by
    by_contra hnot
    simp [guard, hnot] at hguard
  obtain ⟨printed, hprint⟩ := Option.isSome_iff_exists.mp (hall n hn)
  exact ⟨printed, toOption_eq_some_iff.mp hprint⟩

end Sample

/-- A program whose handlers and getter get names of their own, beside a shorthand property with a
computed key. -/
theorem returns_unless_refused_handlersAndGetter :
    ∃ source r s l,
      Source.parse
        "var m={bake:f,get_t:g};function h(){return x}({async [x]})" = .ok source ∧
      source.tree.Printable ∧
      Registry.create "___" Role.defaultDescriptor defaultParameterRoles = .ok r ∧
      Store.analyze source.tree = .ok s ∧
      (Labeling.start s {} r).runPasses source.tree Pass.standard = (l, none) ∧
      l.passes = Pass.standard.map (·.name) := by
  have hobserved : Sample.outcome?
      "var m={bake:f,get_t:g};function h(){return x}({async [x]})" = some none := by
    simp only [Sample.outcome?, Labeling.runPasses_eq_runTables, Pass.tables_standard]
    decide +kernel
  obtain ⟨source, r, s, l, hread, hprintable, hr, hs, hrun⟩ := Sample.exists_of_outcome? hobserved
  obtain ⟨s', hs', houtcome⟩ := returns_unless_refused hread hprintable hr
  obtain rfl : s = s' := Except.ok.inj (hs.symm.trans hs')
  rcases houtcome l none hrun with ⟨-, hpasses⟩ | ⟨fault, hfault, -⟩
  · exact ⟨source, r, s, l, hread, hprintable, hr, hs, hrun, hpasses⟩
  · exact absurd hfault (by simp)

/-- The getter of a name is called like the handler of a key, or the name is not plain, and the run
ends with a fault, although every part of the program can be printed. -/
theorem refused_if_names_meet :
    (∃ source r s l,
        Source.parse "var m={bake:f,get_t:g};function h(){return tHandler}" = .ok source ∧
        source.tree.Printable ∧
        Registry.create "___" Role.defaultDescriptor defaultParameterRoles = .ok r ∧
        Store.analyze source.tree = .ok s ∧
        (Labeling.start s {} r).runPasses source.tree Pass.standard =
          (l, some (.registry (.clash "___get_tHandler" "handler:get_t" "getter:tHandler")))) ∧
      ∃ source r s l,
        Source.parse "function h(){return é}" = .ok source ∧
        source.tree.Printable ∧
        Registry.create "___" Role.defaultDescriptor defaultParameterRoles = .ok r ∧
        Store.analyze source.tree = .ok s ∧
        (Labeling.start s {} r).runPasses source.tree Pass.standard =
          (l, some (.registry (.badComputedName "___get_é"))) := by
  refine ⟨Sample.exists_of_outcome? ?_, Sample.exists_of_outcome? ?_⟩
  · simp only [Sample.outcome?, Labeling.runPasses_eq_runTables, Pass.tables_standard]
    decide +kernel
  · simp only [Sample.outcome?, Labeling.runPasses_eq_runTables, Pass.tables_standard]
    decide +kernel

end Relabel
