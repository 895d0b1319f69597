import Relabel.Proofs.Labeling.Invariant

/-!
# What renaming preserves

Whatever is asked of an analysed program, alone or by a labelling run, changes it by accepted
renames only. A property of the store and the edits that an accepted rename preserves therefore
holds after any sequence of calls, also where a call was refused or a run ended with a fault.
-/

namespace Relabel

/-- A call made on an analysed program. -/
inductive Call where
  /-- Asks why a binding cannot take a name. -/
  | check (binding : BindingId) (name : String)
  | rename (binding : BindingId) (name : String)
  /-- Has the engine carry out one request of an idiom. -/
  | request (idiom : String) (request : Request)
  /-- Has the engine carry out the requests of a match. -/
  | apply (idiom : String) (requests : List Request)
  /-- Runs passes over the program. -/
  | label (registry : Registry) (passes : List Pass)

namespace Engine

/-- The engine after a call on a program. -/
def call (tree : Node) (engine : Engine) : Call → Engine
  | .check _ _ => engine
  | .rename binding name =>
    match engine.store.rename engine.edits binding name with
    | .ok (store, edits) => { engine with store, edits }
    | .error _ => engine
  | .request idiom request => (engine.rename idiom request).1
  | .apply idiom requests => (engine.apply idiom requests).1
  | .label registry passes => (Labeling.runPasses { engine, registry } tree passes).1.engine

/-- The engine after calls on a program, one after the other. -/
def calls (tree : Node) (engine : Engine) (history : List Call) : Engine :=
  history.foldl (call tree) engine

end Engine

/-- The requests of all matches of a run, in order. -/
def Labeling.requests (l : Labeling) : List Request :=
  l.found.flatMap (·.requests)

/-- A property of the engine and of the requests made so far that holds after one more request, and
that does not depend on when passes start and finish. -/
structure Carried (P : Engine → List Request → Prop) : Prop where
  request : ∀ engine requests idiom request, P engine requests →
    P (engine.rename idiom request).1 (requests ++ [request])
  note : ∀ engine requests event, (∀ row, event ≠ .attempted row) → P engine requests →
    P (engine.note event) requests

namespace Carried

variable {P : Engine → List Request → Prop}

theorem apply (hP : Carried P) {engine : Engine} (requests : List Request)
    (h : P engine requests) (idiom : String) (more : List Request) :
    P (engine.apply idiom more).1 (requests ++ more) := by
  induction more generalizing engine requests with
  | nil => rwa [List.append_nil]
  | cons request rest ih =>
    have hrest := ih _ (hP.request engine requests idiom request h)
    rw [List.append_assoc] at hrest
    exact hrest

theorem step (hP : Carried P) (l : Labeling) (n : Node) (idiom : Idiom)
    (h : P l.engine l.requests) :
    P (l.visit n [idiom]).1.engine (l.visit n [idiom]).1.requests := by
  have hask : P (l.ask n idiom).2.engine (l.ask n idiom).2.requests := h
  unfold Labeling.visit
  rcases hresult : l.ask n idiom with ⟨fault | _ | requests, next⟩
  · rwa [hresult] at hask
  · rwa [hresult] at hask
  · rw [hresult] at hask
    have happlied := hP.apply next.requests hask idiom.label requests
    simpa [Labeling.requests] using happlied

theorem visit (hP : Carried P) {l : Labeling} (h : P l.engine l.requests) (n : Node)
    (idioms : List Idiom) : P (l.visit n idioms).1.engine (l.visit n idioms).1.requests := by
  have hends : Labeling.Ends (fun l ↦ P l.engine l.requests) (fun _ _ ↦ True)
      (l.visit n idioms) :=
    .visit (fun l idiom _ h ↦ ⟨hP.step l n idiom h, fun _ _ ↦ trivial⟩) h
  exact hends.1

theorem invariant (hP : Carried P) (table : Table Kind (List Idiom)) :
    Labeling.Invariant (fun l ↦ P l.engine l.requests) (fun _ _ ↦ True) (fun _ ↦ True) table :=
  .of_step hP.step table

theorem sweep (hP : Carried P) (table : Table Kind (List Idiom)) {l : Labeling}
    (h : P l.engine l.requests) (stack : List (Node × Option Node)) :
    P (l.sweep table stack).1.engine (l.sweep table stack).1.requests :=
  ((hP.invariant table).sweep h fun _ _ ↦ trivial).1

theorem runPasses (hP : Carried P) {l : Labeling} (h : P l.engine l.requests) (tree : Node)
    (passes : List Pass) :
    P (l.runPasses tree passes).1.engine (l.runPasses tree passes).1.requests := by
  have hthroughout : Labeling.Throughout (fun l ↦ P l.engine l.requests) (fun _ _ ↦ True)
      (fun _ ↦ True) passes :=
    { walks := fun pass _ ↦ hP.invariant pass.table
      note := fun l event hevent h ↦ hP.note l.engine l.requests event hevent h
      finish := fun _ _ h ↦ h }
  have hends : Labeling.Ends _ _ (l.runPasses tree passes) := hthroughout.runPasses trivial h
  exact hends.1

end Carried

/-- A property of store and edits that every accepted rename preserves. -/
def Preserved (P : Store → Edits → Prop) : Prop :=
  ∀ ⦃s e id b name⦄, P s e → s.bindings[id]? = some b → name ≠ b.name →
    s.refusal? id b name = none → P (s.rekey id b name) (Store.respellSites b name e)

/-- A rename that is carried out changes nothing or is an accepted rename to another name. -/
theorem Store.rename_eq_ok_iff {s s' : Store} {e e' : Edits} {id : BindingId} {name : String} :
    s.rename e id name = .ok (s', e') ↔
      ((∀ b, s.bindings[id]? = some b → b.name = name) ∧ s' = s ∧ e' = e) ∨
        ∃ b, s.bindings[id]? = some b ∧ name ≠ b.name ∧ s.refusal? id b name = none ∧
          s' = s.rekey id b name ∧ e' = respellSites b name e := by
  unfold rename
  cases hb : s.bindings[id]? with
  | none => simp [eq_comm]
  | some b =>
    by_cases hname : b.name = name
    · simp [hname, eq_comm]
    · cases hrefusal : s.refusal? id b name with
      | none => simp [hname, Ne.symm hname, hrefusal, eq_comm]
      | some refusal => simp [hname, hrefusal]

namespace Preserved

variable {P : Store → Edits → Prop}

theorem store_rename (hP : Preserved P) {s s' : Store} {e e' : Edits} {id : BindingId}
    {name : String} (h : P s e) (hrename : s.rename e id name = .ok (s', e')) : P s' e' := by
  rcases Store.rename_eq_ok_iff.mp hrename with ⟨-, rfl, rfl⟩ | ⟨b, hb, hne, haccepted, rfl, rfl⟩
  · exact h
  · exact hP h hb hne haccepted

theorem engine_rename (hP : Preserved P) {engine : Engine} (h : P engine.store engine.edits)
    (idiom : String) (request : Request) :
    P (engine.rename idiom request).1.store (engine.rename idiom request).1.edits := by
  unfold Engine.rename
  cases engine.store.bindings[request.binding]? with
  | none => exact h
  | some b =>
    by_cases hname : b.name = request.name
    · simpa [hname] using h
    · simp only [if_neg hname]
      cases hrename : engine.store.rename engine.edits request.binding request.name with
      | error collision => exact h
      | ok result => exact hP.store_rename h hrename

theorem carried (hP : Preserved P) : Carried fun engine _ ↦ P engine.store engine.edits where
  request _ _ idiom request h := hP.engine_rename h idiom request
  note _ _ _ _ h := h

theorem call (hP : Preserved P) {engine : Engine} (h : P engine.store engine.edits) (tree : Node)
    (c : Call) : P (engine.call tree c).store (engine.call tree c).edits := by
  cases c with
  | check => exact h
  | rename binding name =>
    simp only [Engine.call]
    split
    · rename_i hrename
      exact hP.store_rename h hrename
    · exact h
  | request idiom request => exact hP.engine_rename h idiom request
  | apply idiom requests => exact hP.carried.apply [] h idiom requests
  | label registry passes => exact hP.carried.runPasses (l := { engine, registry }) h tree passes

/-- What holds at first and is preserved by every accepted rename holds after any calls. -/
theorem calls (hP : Preserved P) (engine : Engine) (h : P engine.store engine.edits) (tree : Node)
    (history : List Call) :
    P (engine.calls tree history).store (engine.calls tree history).edits := by
  induction history generalizing engine with
  | nil => exact h
  | cons c rest ih => exact ih (engine.call tree c) (hP.call h tree c)

end Preserved

end Relabel
