import Relabel.Labeling.Run

/-!
# What holds throughout a run

A run asks one idiom about one node at a time and carries out what the idiom finds. What each such
step keeps, also where it fails, is kept by walks, passes and whole runs.
-/

namespace Relabel.Labeling

/-- What the first of several idioms makes of a run at a node. -/
theorem visit_cons (l : Labeling) (n : Node) (idiom : Idiom) (rest : List Idiom) :
    l.visit n (idiom :: rest) =
      match (idiom.recognise l.context (l.context.edits.apply n)).run l.registry with
      | (.error fault, registry) => ({ l with registry }, some fault)
      | (.ok none, registry) => { l with registry }.visit n rest
      | (.ok (some requests), registry) =>
        ({ l with
          registry
          engine := (l.engine.apply idiom.label requests).1
          found := l.found ++ [⟨idiom, n, requests⟩] }, none) := by
  have hask : l.ask n idiom =
      (((idiom.recognise l.context (l.context.edits.apply n)).run l.registry).1,
        { l with
          registry := ((idiom.recognise l.context (l.context.edits.apply n)).run l.registry).2 }) :=
    rfl
  rw [visit, hask]
  rcases (idiom.recognise l.context (l.context.edits.apply n)).run l.registry with
    ⟨_ | _ | _, _⟩ <;> rfl

theorem visit_singleton (l : Labeling) (n : Node) (idiom : Idiom) :
    l.visit n [idiom] =
      match (idiom.recognise l.context (l.context.edits.apply n)).run l.registry with
      | (.error fault, registry) => ({ l with registry }, some fault)
      | (.ok none, registry) => ({ l with registry }, none)
      | (.ok (some requests), registry) =>
        ({ l with
          registry
          engine := (l.engine.apply idiom.label requests).1
          found := l.found ++ [⟨idiom, n, requests⟩] }, none) :=
  l.visit_cons n idiom []

/-- A run ends in a state with `P`, and with `Q` if it ends with a fault. -/
def Ends (P : Labeling → Prop) (Q : Labeling → Fault → Prop) (run : Labeling × Option Fault) :
    Prop :=
  P run.1 ∧ ∀ fault, run.2 = some fault → Q run.1 fault

/-- What the steps of a walk keep at nodes with `V`. -/
structure Invariant (P : Labeling → Prop) (Q : Labeling → Fault → Prop) (V : Node → Prop)
    (table : Table Kind (List Idiom)) : Prop where
  step : ∀ l n idiom, P l → V n → idiom ∈ (n.kind.bind table.get?).getD [] →
    Ends P Q (l.visit n [idiom])
  descents : ∀ (l : Labeling) n, V n → ∀ entry ∈ l.descents n, V entry.1
  untyped : ∀ l n parent, P l → V n → ¬ n.isTyped = true → Q l (.tree (.untyped parent))

/-- What the walks of passes keep, and what happens between them. -/
structure Throughout (P : Labeling → Prop) (Q : Labeling → Fault → Prop) (V : Node → Prop)
    (passes : List Pass) : Prop where
  walks : ∀ pass ∈ passes, Invariant P Q V pass.table
  note : ∀ l event, (∀ row, event ≠ .attempted row) → P l → P (l.note event)
  finish : ∀ l name, P l → P { l with passes := l.passes ++ [name] }

variable {P : Labeling → Prop} {Q : Labeling → Fault → Prop} {V : Node → Prop} {l : Labeling}

theorem Ends.finished (h : P l) : Ends P Q (l, none) :=
  ⟨h, by simp⟩

theorem Ends.failed {fault : Fault} (h : P l) (hfault : Q l fault) : Ends P Q (l, some fault) :=
  ⟨h, fun _ hsame ↦ Option.some.inj hsame ▸ hfault⟩

/-- What holds of every idiom alone holds of a list of idioms. -/
theorem Ends.visit {n : Node} {idioms : List Idiom}
    (hstep : ∀ l, ∀ idiom ∈ idioms, P l → Ends P Q (l.visit n [idiom])) (h : P l) :
    Ends P Q (l.visit n idioms) := by
  induction idioms generalizing l with
  | nil => exact .finished h
  | cons idiom rest ih =>
    have hfirst := hstep l idiom List.mem_cons_self h
    unfold Labeling.visit at hfirst ⊢
    rcases hask : l.ask n idiom with ⟨fault | _ | requests, next⟩
    · rwa [hask] at hfirst
    · rw [hask] at hfirst
      exact ih (fun l other hother ↦ hstep l other (List.mem_cons_of_mem idiom hother)) hfirst.1
    · rwa [hask] at hfirst

theorem Invariant.sweep {table : Table Kind (List Idiom)} (hP : Invariant P Q V table) (h : P l)
    {stack : List (Node × Option Node)} (hstack : ∀ entry ∈ stack, V entry.1) :
    Ends P Q (l.sweep table stack) := by
  fun_induction Labeling.sweep l table stack with
  | case1 => exact .finished h
  | case2 l n parent rest _ idioms next fault hresult =>
    have hn := hstack (n, parent) List.mem_cons_self
    have hvisited : Ends P Q (l.visit n idioms) :=
      .visit (fun l idiom hidiom hl ↦ hP.step l n idiom hl hn hidiom) h
    rwa [hresult] at hvisited
  | case3 l n parent rest _ idioms next hresult ih =>
    have hn := hstack (n, parent) List.mem_cons_self
    have hvisited : Ends P Q (l.visit n idioms) :=
      .visit (fun l idiom hidiom hl ↦ hP.step l n idiom hl hn hidiom) h
    rw [hresult] at hvisited
    refine ih hvisited.1 fun entry hentry ↦ ?_
    rcases List.mem_append.mp hentry with hdescent | hrest
    · exact hP.descents next n hn entry hdescent
    · exact hstack entry (List.mem_cons_of_mem _ hrest)
  | case4 l n parent rest huntyped =>
    exact .failed h (hP.untyped l n _ h (hstack (n, parent) List.mem_cons_self) huntyped)

namespace Throughout

variable {passes : List Pass} {tree : Node}

theorem runPass (hP : Throughout P Q V passes) (htree : V tree) {pass : Pass}
    (hpass : pass ∈ passes) (h : P l) : Ends P Q (l.runPass tree pass) := by
  have hstarted : P (l.note (.passStarted pass.name)) := hP.note l _ (by simp) h
  have hswept := (hP.walks pass hpass).sweep hstarted
    fun entry (hentry : entry ∈ [(tree, none)]) ↦ List.mem_singleton.mp hentry ▸ htree
  unfold Labeling.runPass
  rcases hsweep : (l.note (.passStarted pass.name)).sweep pass.table [(tree, none)] with
    ⟨next, fault | _⟩
  · rw [hsweep] at hswept
    exact .finished (hP.finish _ _ (hP.note next _ (by simp) hswept.1))
  · rwa [hsweep] at hswept

theorem runPasses (hP : Throughout P Q V passes) (htree : V tree) (h : P l) :
    Ends P Q (l.runPasses tree passes) := by
  induction passes generalizing l with
  | nil => exact .finished h
  | cons pass rest ih =>
    have hpass := hP.runPass htree List.mem_cons_self h
    have hrest : Throughout P Q V rest :=
      ⟨fun other hother ↦ hP.walks other (List.mem_cons_of_mem pass hother), hP.note, hP.finish⟩
    unfold Labeling.runPasses
    rcases hrun : l.runPass tree pass with ⟨next, fault | _⟩
    · rw [hrun] at hpass
      exact ih hrest hpass.1
    · rwa [hrun] at hpass

end Throughout

/-- What a step keeps, wherever it is taken and however it ends, a walk keeps. -/
theorem Invariant.of_step (hstep : ∀ l n idiom, P l → P (l.visit n [idiom]).1)
    (table : Table Kind (List Idiom)) :
    Invariant P (fun _ _ ↦ True) (fun _ ↦ True) table where
  step l n idiom h _ _ := ⟨hstep l n idiom h, fun _ _ ↦ trivial⟩
  descents _ _ _ _ _ := trivial
  untyped _ _ _ _ _ _ := trivial

end Relabel.Labeling
