import Relabel.Proofs.Idiom.Wanted
import Relabel.Proofs.Labeling.Idempotence
import Relabel.Proofs.Labeling.Undo

/-!
# The report as a log

What a run reports can be read back: the requests of its matches, in order, were answered one by one
by the rules of renaming, the rows of the report are the answers to those that changed a name and to
those that were refused, and the rows of one binding lead from the name that it had before the run
to the name that it has afterwards.
-/

namespace Relabel

/-- A request and what came of it: the name and the line that its binding had at that moment, the
outcome, and the reason if it was refused. -/
structure LogEntry where
  idiom : String
  request : Request
  carried : String
  line : Int
  outcome : Outcome
  refusal : Option Refusal := none
deriving Repr, DecidableEq

namespace LogEntry

def row (entry : LogEntry) : Row :=
  ⟨entry.idiom, entry.carried, entry.request.name, entry.line, entry.refusal⟩

/-- The rows of the entries with an outcome. -/
def rows (outcome : Outcome) (log : List LogEntry) : List Row :=
  (log.filter (·.outcome = outcome)).map row

/-- The rows of the renames of one binding. -/
def renames (id : BindingId) (log : List LogEntry) : List Row :=
  rows .renamed (log.filter (·.request.binding = id))

end LogEntry

/-- Rows that lead from one name to another: each takes up the name that the one before it gave, and
gives a different one. -/
def Chained : String → List Row → String → Prop
  | first, [], last => first = last
  | first, row :: rest, last =>
    row.oldName = first ∧ row.newName ≠ row.oldName ∧ Chained row.newName rest last

instance Chained.decidable : ∀ first rows last, Decidable (Chained first rows last)
  | first, [], last => inferInstanceAs (Decidable (first = last))
  | first, row :: rest, last =>
    have := decidable row.newName rest last
    inferInstanceAs (Decidable (row.oldName = first ∧ row.newName ≠ row.oldName ∧
      Chained row.newName rest last))

theorem Chained.append_singleton {first last : String} {rows : List Row} {row : Row}
    (h : Chained first rows last) (hold : row.oldName = last) (hnew : row.newName ≠ row.oldName) :
    Chained first (rows ++ [row]) row.newName := by
  induction rows generalizing first with
  | nil => exact ⟨hold.trans h.symm, hnew, rfl⟩
  | cons other rest ih => exact ⟨h.1, h.2.1, ih h.2.2⟩

namespace Store

/-- The answer that the rules of renaming give to one request, with the store and the edits that it
leads to. -/
inductive Answers (s : Store) (e : Edits) : LogEntry → Store → Edits → Prop
  | unchanged {idiom : String} {id : BindingId} {b : Binding} : s.bindings[id]? = some b →
      Answers s e ⟨idiom, ⟨id, b.name⟩, b.name, b.line, .unchanged, none⟩ s e
  | renamed {idiom name : String} {id : BindingId} {b : Binding} : s.bindings[id]? = some b →
      name ≠ b.name → s.refusal? id b name = none →
      Answers s e ⟨idiom, ⟨id, name⟩, b.name, b.line, .renamed, none⟩ (s.rekey id b name)
        (respellSites b name e)
  | collision {idiom name : String} {id : BindingId} {b : Binding} {refusal : Refusal} :
      s.bindings[id]? = some b → name ≠ b.name → s.refusal? id b name = some refusal →
      Answers s e ⟨idiom, ⟨id, name⟩, b.name, b.line, .collision, some refusal⟩ s e

/-- Entries for requests that were answered one after the other, from a store and edits on. -/
inductive Logged (s : Store) (e : Edits) : List LogEntry → Store → Edits → Prop
  | start : Logged s e [] s e
  | more {log : List LogEntry} {entry : LogEntry} {live live' : Store} {edits edits' : Edits} :
      Logged s e log live edits → live.Answers edits entry live' edits' →
      Logged s e (log ++ [entry]) live' edits'

variable {s live live' : Store} {e edits edits' : Edits} {entry : LogEntry} {log : List LogEntry}

namespace Answers

/-- A request is answered according to the name that its binding has. -/
theorem exists_binding (h : s.Answers e entry live edits) :
    ∃ b, s.bindings[entry.request.binding]? = some b ∧ entry.carried = b.name ∧
      entry.line = b.line := by
  cases h with
  | unchanged hb => exact ⟨_, hb, rfl, rfl⟩
  | renamed hb _ _ => exact ⟨_, hb, rfl, rfl⟩
  | collision hb _ _ => exact ⟨_, hb, rfl, rfl⟩

theorem unchanged_iff (h : s.Answers e entry live edits) :
    entry.outcome = .unchanged ↔ entry.carried = entry.request.name := by
  cases h with
  | unchanged => simp
  | renamed _ hne _ => simp [Ne.symm hne]
  | collision _ hne _ => simp [Ne.symm hne]

theorem preserves (h : s.Answers e entry live edits) {P : Store → Edits → Prop}
    (hP : Preserved P) (hstart : P s e) : P live edits := by
  cases h with
  | unchanged => exact hstart
  | renamed hb hne haccepted => exact hP hstart hb hne haccepted
  | collision => exact hstart

/-- The name of a binding after an answer. -/
theorem bindings (h : s.Answers e entry live edits) {id : BindingId} {b : Binding}
    (hb : s.bindings[id]? = some b) :
    ∃ b', live.bindings[id]? = some b' ∧ b'.sites = b.sites ∧
      (if entry.request.binding = id ∧ entry.outcome = .renamed then
        entry.carried = b.name ∧ entry.request.name ≠ b.name ∧ b'.name = entry.request.name
      else b'.name = b.name) := by
  cases h with
  | unchanged => exact ⟨b, hb, rfl, by simp⟩
  | collision => exact ⟨b, hb, rfl, by simp⟩
  | @renamed _ name other c hc hne _ =>
    rw [getElem?_bindings_rekey]
    by_cases hid : other = id
    · subst hid
      obtain rfl : c = b := Option.some.inj (hc.symm.trans hb)
      rw [if_pos rfl, hb]
      exact ⟨_, rfl, rfl, by simpa using hne⟩
    · rw [if_neg hid]
      exact ⟨b, hb, rfl, by simp [hid]⟩

/-- An answer is about one binding. -/
theorem name_eq (h : s.Answers e entry live edits) {id : BindingId}
    (hid : entry.request.binding ≠ id) :
    live.bindings[id]?.map (·.name) = s.bindings[id]?.map (·.name) := by
  cases h with
  | unchanged => rfl
  | renamed => rw [getElem?_bindings_rekey, if_neg hid]
  | collision => rfl

/-- A binding has the name asked for unless that was refused. -/
theorem name_of_ne_collision (h : s.Answers e entry live edits) (hkept : entry.outcome ≠ .collision) :
    live.bindings[entry.request.binding]?.map (·.name) = some entry.request.name := by
  cases h with
  | unchanged hb => rw [hb, Option.map_some]
  | renamed hb => rw [getElem?_bindings_rekey, if_pos rfl, hb, Option.map_some, Option.map_some]
  | collision => exact absurd rfl hkept

end Answers

/-- A request for a binding of the store is answered, and the engine tells and keeps the answer. -/
theorem exists_answers (engine : Engine) (idiom : String) {request : Request} {b : Binding}
    (hb : engine.store.bindings[request.binding]? = some b) :
    ∃ entry, entry.idiom = idiom ∧ entry.request = request ∧
      entry.outcome = (engine.rename idiom request).2 ∧
      engine.store.Answers engine.edits entry (engine.rename idiom request).1.store
        (engine.rename idiom request).1.edits ∧
      (engine.rename idiom request).1.rows =
        engine.rows ++ if entry.outcome = .unchanged then [] else [entry.row] := by
  obtain ⟨id, name⟩ := request
  unfold Engine.rename
  simp only [hb]
  by_cases hname : b.name = name
  · subst hname
    refine ⟨⟨idiom, ⟨id, b.name⟩, b.name, b.line, .unchanged, none⟩, rfl, rfl, by simp, ?_, by simp⟩
    simpa using .unchanged hb
  · simp only [if_neg hname]
    cases hrename : engine.store.rename engine.edits id name with
    | ok result =>
      obtain ⟨store, edits⟩ := result
      have haccepted : engine.store.refusal? id b name = none := by
        rcases rename_eq_ok_iff.mp hrename with ⟨hsame, -⟩ | ⟨c, hc, -, haccepted, -⟩
        · exact absurd (hsame b hb) hname
        · rwa [Option.some.inj (hb.symm.trans hc)]
      obtain ⟨rfl, rfl⟩ := eq_of_rename_eq_ok hb hname hrename
      exact ⟨_, rfl, rfl, rfl, .renamed hb (Ne.symm hname) haccepted, by
        rw [Engine.rows_note_attempted]
        rfl⟩
    | error collision =>
      have hrefused : engine.store.refusal? id b name = some collision.refusal := by
        unfold Store.rename at hrename
        simp only [hb, if_neg hname] at hrename
        split at hrename
        · rename_i refusal hrefusal
          rw [hrefusal, ← Except.error.inj hrename]
        · simp at hrename
      exact ⟨_, rfl, rfl, rfl, .collision hb (Ne.symm hname) hrefused, by
        rw [Engine.rows_note_attempted]
        rfl⟩

/-- A request is answered in one way. -/
theorem Answers.unique {entry' : LogEntry} (h : s.Answers e entry live edits)
    (h' : s.Answers e entry' live' edits') (hidiom : entry.idiom = entry'.idiom)
    (hrequest : entry.request = entry'.request) :
    entry = entry' ∧ live = live' ∧ edits = edits' := by
  cases h <;> cases h' <;> simp_all

namespace Logged

theorem preserves (h : s.Logged e log live edits) {P : Store → Edits → Prop} (hP : Preserved P)
    (hstart : P s e) : P live edits := by
  induction h with
  | start => exact hstart
  | more _ hanswer ih => exact hanswer.preserves hP ih

theorem append (h : s.Logged e log live edits) {more : List LogEntry}
    (hmore : live.Logged edits more live' edits') : s.Logged e (log ++ more) live' edits' := by
  induction hmore with
  | start => rwa [List.append_nil]
  | more _ hanswer ih =>
    rw [← List.append_assoc]
    exact ih.more hanswer

/-- The same requests are logged in one way. -/
theorem unique (h : s.Logged e log live edits) {log' : List LogEntry}
    (h' : s.Logged e log' live' edits')
    (hsame : log.map (fun entry ↦ (entry.idiom, entry.request)) =
      log'.map fun entry ↦ (entry.idiom, entry.request)) :
    log = log' ∧ live = live' ∧ edits = edits' := by
  induction h generalizing log' live' edits' with
  | start =>
    cases h' with
    | start => exact ⟨rfl, rfl, rfl⟩
    | more => simp at hsame
  | more _ hanswer ih =>
    cases h' with
    | start => simp at hsame
    | more hbefore hanswer' =>
      rw [List.map_append, List.map_append] at hsame
      obtain ⟨hearlier, hlast⟩ := List.append_inj' hsame rfl
      obtain ⟨hidiom, hrequest⟩ := Prod.mk.inj (List.singleton_inj.mp hlast)
      obtain ⟨rfl, rfl, rfl⟩ := ih hbefore hearlier
      obtain ⟨rfl, rfl, rfl⟩ := hanswer.unique hanswer' hidiom hrequest
      exact ⟨rfl, rfl, rfl⟩

/-- Each entry was answered by the store that the entries before it led to. -/
theorem exists_answers_of_eq (h : s.Logged e log live edits) {before after : List LogEntry}
    (hlog : log = before ++ entry :: after) :
    ∃ store edits store' edits', s.Logged e before store edits ∧
      store.Answers edits entry store' edits' := by
  induction h generalizing after with
  | start => simp at hlog
  | more hbefore hanswer ih =>
    rcases List.eq_nil_or_concat' after with rfl | ⟨rest, last, rfl⟩
    · obtain ⟨rfl, hsame⟩ := List.append_inj' hlog rfl
      obtain rfl := List.singleton_inj.mp hsame
      exact ⟨_, _, _, _, hbefore, hanswer⟩
    · rw [← List.cons_append, ← List.append_assoc] at hlog
      exact ih (List.append_inj' hlog rfl).1

/-- A binding that nothing is asked for keeps its name. -/
theorem name_eq (h : s.Logged e log live edits) {id : BindingId}
    (hid : ∀ entry ∈ log, entry.request.binding ≠ id) :
    live.bindings[id]?.map (·.name) = s.bindings[id]?.map (·.name) := by
  induction h with
  | start => rfl
  | more _ hanswer ih =>
    obtain ⟨hearlier, hlast⟩ := List.forall_mem_append.mp hid
    exact (hanswer.name_eq (hlast _ (List.mem_singleton_self _))).trans (ih hearlier)

/-- Bindings that are asked for once have the names asked for, unless these were refused. -/
theorem name_of_nodup (h : s.Logged e log live edits)
    (hnodup : (log.map (·.request.binding)).Nodup) {entry : LogEntry} (hentry : entry ∈ log)
    (hkept : entry.outcome ≠ .collision) :
    live.bindings[entry.request.binding]?.map (·.name) = some entry.request.name := by
  induction h with
  | start => exact absurd hentry List.not_mem_nil
  | @more _ last _ _ _ _ _ hanswer ih =>
    rw [List.map_append, List.nodup_append] at hnodup
    obtain ⟨hearlier, -, hapart⟩ := hnodup
    rcases List.mem_append.mp hentry with hentry | hentry
    · have hne := hapart _ (List.mem_map.mpr ⟨entry, hentry, rfl⟩) _ (List.mem_singleton_self _)
      exact (hanswer.name_eq (Ne.symm hne)).trans (ih hearlier hentry)
    · obtain rfl := List.mem_singleton.mp hentry
      exact hanswer.name_of_ne_collision hkept

/-- The renames of a binding lead from its name at first to its name in the end. -/
theorem chained (h : s.Logged e log live edits) {id : BindingId} {b : Binding}
    (hb : s.bindings[id]? = some b) :
    ∃ b', live.bindings[id]? = some b' ∧ b'.sites = b.sites ∧
      Chained b.name (LogEntry.renames id log) b'.name := by
  induction h with
  | start => exact ⟨b, hb, rfl, rfl⟩
  | @more log entry _ _ _ _ _ hanswer ih =>
    obtain ⟨mid, hmid, hsites, hchain⟩ := ih
    obtain ⟨last, hlast, hlastSites, hname⟩ := hanswer.bindings hmid
    refine ⟨last, hlast, hlastSites.trans hsites, ?_⟩
    unfold LogEntry.renames LogEntry.rows at hchain ⊢
    rw [List.filter_append, List.filter_append, List.map_append]
    split at hname
    · rename_i hours
      obtain ⟨hcarried, hne, hnew⟩ := hname
      simp only [hours, decide_true, List.filter_cons_of_pos, List.filter_nil, List.map_cons,
        List.map_nil]
      rw [hnew]
      exact hchain.append_singleton hcarried (by rwa [LogEntry.row, hcarried])
    · rename_i hother
      rw [hname]
      by_cases hbinding : entry.request.binding = id
      · have houtcome : entry.outcome ≠ .renamed := fun h ↦ hother ⟨hbinding, h⟩
        simpa [hbinding, houtcome] using hchain
      · simpa [hbinding] using hchain

end Logged

end Store

namespace Labeling

/-- The requests of all matches of a run, each with the idiom that made it. -/
def attempts (l : Labeling) : List (String × Request) :=
  l.found.flatMap fun found ↦ found.requests.map (found.idiom.label, ·)

/-- The log of a run between two of its states: the requests that it made in between were answered
one by one, and the journal has the answers to those that were not idle. -/
structure Records (l next : Labeling) (log : List LogEntry) : Prop where
  attempts : next.attempts = l.attempts ++ log.map fun entry ↦ (entry.idiom, entry.request)
  logged : l.engine.store.Logged l.engine.edits log next.engine.store next.engine.edits
  rows : next.engine.rows = l.engine.rows ++ (log.filter (·.outcome ≠ .unchanged)).map LogEntry.row

namespace Records

variable {l next last : Labeling} {log more : List LogEntry}

theorem refl (l : Labeling) : l.Records l [] :=
  ⟨(List.append_nil _).symm, .start, (List.append_nil _).symm⟩

/-- Names are issued without a trace. -/
theorem issue (l : Labeling) (registry : Registry) : l.Records { l with registry } [] :=
  ⟨(List.append_nil _).symm, .start, (List.append_nil _).symm⟩

theorem trans (h : l.Records next log) (h' : next.Records last more) :
    l.Records last (log ++ more) where
  attempts := by rw [h'.attempts, h.attempts, List.map_append, List.append_assoc]
  logged := h.logged.append h'.logged
  rows := by rw [h'.rows, h.rows, List.filter_append, List.map_append, List.append_assoc]

/-- There is one log of what lies between two states. -/
theorem unique (h : l.Records next log) (h' : l.Records next more) : log = more :=
  (h.logged.unique h'.logged (List.append_cancel_left (h.attempts.symm.trans h'.attempts))).1

theorem note (h : l.Records next log) {event : Event} (hevent : ∀ row, event ≠ .attempted row) :
    l.Records (next.note event) log :=
  ⟨h.attempts, h.logged, (Engine.rows_note_of_not_attempted hevent).trans h.rows⟩

end Records

end Labeling

section Run

variable {tree : Node} {analyzed : Store}

/-- The requests of one match are answered in order. -/
theorem Engine.exists_logged_apply {engine : Engine} (hkept : analyzed.Kept engine.store)
    (idiom : String) {requests : List Request}
    (hbound : ∀ request ∈ requests, ∃ b, analyzed.bindings[request.binding]? = some b) :
    ∃ log : List LogEntry,
      log.map (fun entry ↦ (entry.idiom, entry.request)) = requests.map (idiom, ·) ∧
      log.map (·.outcome) = (engine.apply idiom requests).2 ∧
      engine.store.Logged engine.edits log (engine.apply idiom requests).1.store
        (engine.apply idiom requests).1.edits ∧
      (engine.apply idiom requests).1.rows =
        engine.rows ++ (log.filter (·.outcome ≠ .unchanged)).map LogEntry.row := by
  induction requests generalizing engine with
  | nil => exact ⟨[], rfl, rfl, .start, (List.append_nil _).symm⟩
  | cons request rest ih =>
    obtain ⟨hfirst, hrest⟩ := List.forall_mem_cons.mp hbound
    obtain ⟨b, hb⟩ := hkept.exists_binding hfirst
    obtain ⟨entry, hidiom, hrequest, houtcome, hanswer, hrows⟩ :=
      Store.exists_answers engine idiom hb
    obtain ⟨log, hattempts, houtcomes, hlogged, hmore⟩ :=
      ih (hanswer.preserves (preserved_kept analyzed) hkept) hrest
    refine ⟨entry :: log, ?_, ?_, (Store.Logged.start.more hanswer).append hlogged, ?_⟩
    · rw [List.map_cons, List.map_cons, hattempts, hidiom, hrequest]
    · rw [List.map_cons, houtcomes, houtcome]
      rfl
    · refine hmore.trans ?_
      rw [hrows, List.append_assoc, List.filter_cons]
      by_cases hidle : entry.outcome = .unchanged <;> simp [hidle]

namespace Labeling

/-- A visit with one idiom has a log, and that has what the idiom asked for. -/
theorem exists_records_visit {l : Labeling} (hkept : analyzed.Kept l.engine.store)
    (hhoused : analyzed.Housed) (n : Node) (idiom : Idiom) :
    ∃ log : List LogEntry, l.Records (l.visit n [idiom]).1 log ∧
      ∀ answer, ((idiom.recognise l.context (l.context.edits.apply n)).run l.registry).1 =
        .ok answer → log.map (fun entry ↦ (entry.idiom, entry.request)) =
          (answer.getD []).map (idiom.label, ·) := by
  have hwants := Recognition.wants_recognise (r := l.registry) (c := l.context)
    (n := l.context.edits.apply n) idiom l.registry (.refl _)
  rw [visit_singleton]
  rcases hrun : (idiom.recognise l.context (l.context.edits.apply n)).run l.registry with
    ⟨fault | _ | requests, registry⟩
  · exact ⟨[], .issue l registry, by simp⟩
  · exact ⟨[], .issue l registry, by simp⟩
  · rw [hrun] at hwants
    have hbound : ∀ request ∈ requests, ∃ b, analyzed.bindings[request.binding]? = some b := by
      intro request hrequest
      obtain ⟨⟨m, hm⟩, -⟩ := hwants.2 requests rfl request hrequest
      refine hhoused.exists_of_bindingOf? (n := m) ?_
      rwa [Store.bindingOf?, ← hkept.owners]
    obtain ⟨log, hattempts, -, hlogged, hrows⟩ :=
      l.engine.exists_logged_apply hkept idiom.label hbound
    refine ⟨log, ⟨by simp [Labeling.attempts, hattempts], hlogged, hrows⟩, fun answer hanswer ↦ ?_⟩
    obtain rfl := Except.ok.inj hanswer
    exact hattempts

/-- Every run has a log. -/
theorem exists_records_runPasses (tree : Node) {l : Labeling} (hkept : analyzed.Kept l.engine.store)
    (hhoused : analyzed.Housed) (passes : List Pass) :
    ∃ log, l.Records (l.runPasses tree passes).1 log := by
  have hstep (next : Labeling) (n : Node) (idiom : Idiom) (h : ∃ log, l.Records next log) :
      ∃ log, l.Records (next.visit n [idiom]).1 log := by
    obtain ⟨log, hlog⟩ := h
    have hnext := hlog.logged.preserves (preserved_kept analyzed) hkept
    obtain ⟨more, hmore, -⟩ := exists_records_visit hnext hhoused n idiom
    exact ⟨log ++ more, hlog.trans hmore⟩
  have hthroughout : Throughout (fun next ↦ ∃ log, l.Records next log) (fun _ _ ↦ True)
      (fun _ ↦ True) passes :=
    { walks := fun pass _ ↦ .of_step hstep pass.table
      note := fun _ _ hevent ⟨log, hlog⟩ ↦ ⟨log, hlog.note hevent⟩
      finish := fun _ _ ⟨log, hlog⟩ ↦ ⟨log, hlog.attempts, hlog.logged, hlog.rows⟩ }
  exact (hthroughout.runPasses trivial ⟨[], .refl l⟩).1

/-- The rows of a journal, sorted by what became of the requests. -/
theorem Records.rows_eq {s : Store} {e : Edits} {registry : Registry} {l : Labeling}
    {log : List LogEntry} (h : (start s e registry).Records l log) :
    l.engine.applied = LogEntry.rows .renamed log ∧
      l.engine.collisions = LogEntry.rows .collision log := by
  have hkind : ∀ entry ∈ log,
      (entry.row.refusal.isNone && decide (entry.outcome ≠ .unchanged)) =
          decide (entry.outcome = .renamed) ∧
        (entry.row.refusal.isSome && decide (entry.outcome ≠ .unchanged)) =
          decide (entry.outcome = .collision) := by
    intro entry hentry
    obtain ⟨earlier, later, hlog⟩ := List.append_of_mem hentry
    obtain ⟨_, _, _, _, -, hanswer⟩ := h.logged.exists_answers_of_eq hlog
    cases hanswer <;> simp [LogEntry.row]
  have hrows : l.engine.rows = (log.filter (·.outcome ≠ .unchanged)).map LogEntry.row := h.rows
  unfold Engine.applied Engine.collisions LogEntry.rows
  rw [hrows, List.filter_map, List.filter_map, List.filter_filter, List.filter_filter]
  exact ⟨congrArg _ (List.filter_congr fun entry hentry ↦ (hkind entry hentry).1),
    congrArg _ (List.filter_congr fun entry hentry ↦ (hkind entry hentry).2)⟩

end Labeling

end Run

/-- A log of a run on an analysed program that went on from an engine. -/
structure Labeling.Tells (tree : Node) (analyzed : Store) (before : Engine) (l : Labeling)
    (log : List LogEntry) : Prop where
  /-- There is one entry for each request of the matches, in order. -/
  attempts : log.map (fun entry ↦ (entry.idiom, entry.request)) = l.attempts
  logged : before.store.Logged before.edits log l.engine.store l.engine.edits
  applied : l.engine.applied = LogEntry.rows .renamed log
  collisions : l.engine.collisions = LogEntry.rows .collision log
  /-- An entry has the name that the renames before it gave, and was idle exactly if that was the
  name asked for. -/
  carried : ∀ earlier entry later, log = earlier ++ entry :: later →
    (entry.outcome = .unchanged ↔ entry.carried = entry.request.name) ∧
      ∃ b, before.store.bindings[entry.request.binding]? = some b ∧
        Chained b.name (LogEntry.renames entry.request.binding earlier) entry.carried
  /-- The renames of a binding lead from its name before the run to its name after it. -/
  chained : ∀ (id : BindingId) (b : Binding), before.store.bindings[id]? = some b →
    ∃ b', l.engine.store.bindings[id]? = some b' ∧ b'.sites = b.sites ∧
      Chained b.name (LogEntry.renames id log) b'.name
  /-- The tree before the run has the first name, -/
  first : ∀ (id : BindingId) (b : Binding), before.store.bindings[id]? = some b →
    before.store = analyzed ∧ before.edits = {} ∨ analyzed.Unmixed id → ∀ site ∈ b.sites,
      site.identifier ∈ tree.nodes ∧
        (before.edits.apply site.identifier).head.name.getD "" = b.name
  /-- and the tree after the run has the last name. -/
  last : ∀ (id : BindingId) (b : Binding), l.engine.store.bindings[id]? = some b →
    analyzed.Unmixed id → ∀ site ∈ b.sites,
      (l.engine.edits.apply site.identifier).head.name.getD "" = b.name

/-- Every run has a log, and its report is what the log says. -/
theorem exists_tells_of_runPasses {tree : Node} {analyzed : Store} {before : Engine}
    (h : before.Reachable tree analyzed) {registry : Registry} {passes : List Pass} {l : Labeling}
    {fault : Option Fault}
    (hrun : (Labeling.start before.store before.edits registry).runPasses tree passes =
      (l, fault)) :
    ∃ log, l.Tells tree analyzed before log := by
  obtain ⟨log, hrecords⟩ : ∃ log,
      (Labeling.start before.store before.edits registry).Records l log := by
    have hexists := Labeling.exists_records_runPasses tree
      (l := Labeling.start before.store before.edits registry) h.kept
      (Store.housed_of_analyze h.analyze) passes
    rwa [hrun] at hexists
  have hspelling (e : Edits) (site : Site) :
      (e.apply site.identifier).head.name.getD "" = site.spelling e := by
    rw [Edits.apply_eq]
    rfl
  refine ⟨log, hrecords.attempts.symm, hrecords.logged, hrecords.rows_eq.1, hrecords.rows_eq.2, ?_,
    fun id b hb ↦ hrecords.logged.chained hb, ?_, ?_⟩
  · intro earlier entry later hlog
    obtain ⟨store, edits, _, _, hbefore, hanswer⟩ := hrecords.logged.exists_answers_of_eq hlog
    obtain ⟨b, hb, hcarried, -⟩ := hanswer.exists_binding
    have hkept := hbefore.preserves (preserved_kept analyzed) h.kept
    obtain ⟨old, hold, -⟩ := hkept.exists_sites hb
    obtain ⟨first, hfirst⟩ := h.kept.exists_binding ⟨old, hold⟩
    obtain ⟨b', hb', -, hchain⟩ := hbefore.chained hfirst
    obtain rfl : b' = b := Option.some.inj (hb'.symm.trans hb)
    exact ⟨hanswer.unchanged_iff, first, hfirst, hcarried ▸ hchain⟩
  · intro id b hb hcase site hsite
    rw [hspelling]
    refine ⟨(h.sound_sites id b hb site hsite).mem, ?_⟩
    rcases hcase with ⟨hstore, hedits⟩ | hunmixed
    · rw [hstore] at hb
      rw [hedits]
      exact (Store.spells_of_analyze h.analyze id).2 b hb site hsite
    · exact (h.spells hunmixed).2 b hb site hsite
  · intro id b hb hunmixed site hsite
    rw [hspelling]
    have hspells := hrecords.logged.preserves (preserved_spells hunmixed) (h.spells hunmixed)
    exact hspells.2 b hb site hsite

namespace Sample

/-- `var p = function () { return atob; }; var q = function () { return atob; };` -/
def accessors : Node :=
  let accessor (index : Nat) (text : String) : Node := .mk
    { id := ⟨index, false⟩, kind := some .variableDeclaration, variety := some "var" }
    [(.declarations, some (node (index + 1) .variableDeclarator [(.id, some (name (index + 2) text)),
      (.init, some (node (index + 3) .functionExpression
        [(.body, some (node (index + 4) .blockStatement
          [(.body, some (node (index + 5) .returnStatement
            [(.argument, some (name (index + 6) "atob"))]))]))]))]))]
  node 0 .program [(.body, some (accessor 1 "p")), (.body, some (accessor 8 "q"))]

/-- `var e; e; try { } catch (e) { }`, where the use of the variable and the parameter of the clause
are one node. -/
def caught : Node :=
  node 0 .program
    [(.body, some (.mk
        { id := ⟨1, false⟩, kind := some .variableDeclaration, variety := some "var" }
        [(.declarations, some (node 2 .variableDeclarator [(.id, some (name 3 "e"))]))])),
      (.body, some (node 4 .expressionStatement [(.expression, some (name 5 "e"))])),
      (.body, some (node 6 .tryStatement
        [(.block, some (node 7 .blockStatement [])),
          (.handler, some (node 8 .catchClause
            [(.param, some (name 5 "e")), (.body, some (node 9 .blockStatement []))]))]))]

end Sample

/-- Only one of two variables of a scope gets the name that both are to have. -/
theorem exists_tells_of_runPasses_accessors :
    ∃ registry s l log, Sample.registry? = .ok registry ∧
      Store.analyze Sample.accessors = .ok s ∧
      (Labeling.start s {} registry).runPasses Sample.accessors Pass.standard = (l, none) ∧
      l.engine.applied.map (·.oldName) = ["p"] ∧ l.engine.collisions.map (·.oldName) = ["q"] ∧
      l.Tells Sample.accessors s { store := s } log := by
  have hobserved : (Sample.registry?.toOption.bind fun registry ↦
      (Store.analyze Sample.accessors).toOption.map fun s ↦
        let run := (Labeling.start s {} registry).runPasses Sample.accessors Pass.standard
        decide (run.2 = none ∧ run.1.engine.applied.map (·.oldName) = ["p"] ∧
          run.1.engine.collisions.map (·.oldName) = ["q"])) = some true := by
    simp only [Labeling.runPasses_eq_runTables, Pass.tables_standard]
    decide +kernel
  obtain ⟨registry, hregistry, hanalysed⟩ := Option.bind_eq_some_iff.mp hobserved
  obtain ⟨s, hs, hrun⟩ := Option.map_eq_some_iff.mp hanalysed
  obtain ⟨hfinished, happlied, hcollisions⟩ := of_decide_eq_true hrun
  have hreachable : Engine.Reachable Sample.accessors s { store := s } :=
    ⟨toOption_eq_some_iff.mp hs, [], rfl⟩
  have hreturned : (Labeling.start s {} registry).runPasses Sample.accessors Pass.standard =
      (((Labeling.start s {} registry).runPasses Sample.accessors Pass.standard).1, none) :=
    Prod.ext rfl hfinished
  obtain ⟨log, htells⟩ := exists_tells_of_runPasses hreachable hreturned
  exact ⟨registry, s, _, log, toOption_eq_some_iff.mp hregistry, toOption_eq_some_iff.mp hs,
    hreturned, happlied, hcollisions, htells⟩

/-- A node that is an identifier of two bindings: the parameter of the clause is respelled, although
nobody asked for a name for its binding. -/
theorem respelled_unasked_if_shared :
    ∃ registry s l b site, Sample.registry? = .ok registry ∧
      Store.analyze Sample.caught = .ok s ∧
      (Labeling.start s {} registry).runPasses Sample.caught Pass.standard = (l, none) ∧
      s.bindings[1]? = some b ∧ site ∈ b.sites ∧ site.name = b.name ∧
      ∀ log, l.Tells Sample.caught s { store := s } log →
        ¬ Chained b.name (LogEntry.renames 1 log)
          ((l.engine.edits.apply site.identifier).head.name.getD "") := by
  have hobserved : (Sample.registry?.toOption.bind fun registry ↦
      (Store.analyze Sample.caught).toOption.bind fun s ↦ s.bindings[1]?.bind fun b ↦
        b.sites.head?.map fun site ↦
          let run := (Labeling.start s {} registry).runPasses Sample.caught Pass.standard
          decide (run.2 = none ∧ site.name = b.name ∧ b.name = "e" ∧
            (run.1.engine.edits.apply site.identifier).head.name.getD "" = "err" ∧
            ∀ attempt ∈ run.1.attempts, attempt.2.binding ≠ 1)) = some true := by
    simp only [Labeling.runPasses_eq_runTables, Pass.tables_standard]
    decide +kernel
  obtain ⟨registry, hregistry, hanalysed⟩ := Option.bind_eq_some_iff.mp hobserved
  obtain ⟨s, hs, hfound⟩ := Option.bind_eq_some_iff.mp hanalysed
  obtain ⟨b, hb, hhead⟩ := Option.bind_eq_some_iff.mp hfound
  obtain ⟨site, hsite, hrun⟩ := Option.map_eq_some_iff.mp hhead
  obtain ⟨hfinished, hsame, hname, hafter, hunasked⟩ := of_decide_eq_true hrun
  refine ⟨registry, s, _, b, site, toOption_eq_some_iff.mp hregistry, toOption_eq_some_iff.mp hs,
    Prod.ext rfl hfinished, hb, List.mem_of_mem_head? hsite, hsame, fun log htells ↦ ?_⟩
  have hnone : log.filter (·.request.binding = 1) = [] := by
    rw [List.filter_eq_nil_iff]
    intro entry hentry
    have hattempt : (entry.idiom, entry.request) ∈
        ((Labeling.start s {} registry).runPasses Sample.caught Pass.standard).1.attempts :=
      htells.attempts ▸ List.mem_map.mpr ⟨entry, hentry, rfl⟩
    simpa using hunasked _ hattempt
  rw [hafter, hname, LogEntry.renames, hnone]
  decide

end Relabel
