import Relabel.Idiom.Catalogue

/-!
# The rename engine

The engine carries out requests one by one and keeps a journal. A request that is refused is noted
and dropped; the requests after it are still carried out.
-/

namespace Relabel

inductive Outcome where
  | renamed | unchanged | collision
deriving Repr, DecidableEq, Inhabited

def Outcome.text : Outcome → String
  | renamed => "ok"
  | unchanged => "unchanged"
  | collision => "collision"

/-- A rename that was carried out, or refused for a reason. -/
structure Row where
  idiom : String
  oldName : String
  newName : String
  line : Int
  refusal : Option Refusal := none
deriving Repr, DecidableEq

/-- An entry of the journal. -/
inductive Event where
  | passStarted (pass : String)
  | attempted (row : Row)
  | passFinished (pass : String) (count : Nat)
deriving Repr, DecidableEq

def Event.message : Event → String
  | passStarted pass => "Pass " ++ pass ++ " started"
  | attempted row =>
    match row.refusal with
    | none =>
      "Renamed [" ++ row.idiom ++ "] " ++ row.oldName ++ " -> " ++ row.newName ++ " (line " ++
        toString row.line ++ ")"
    | some refusal =>
      "Rename collision [" ++ row.idiom ++ "] " ++
        (Collision.mk row.oldName row.newName refusal).message
  | passFinished pass count =>
    "Pass " ++ pass ++ " finished: " ++ toString count ++ " matches"

structure Engine where
  store : Store
  edits : Edits := {}
  journal : List Event := []

namespace Engine

def rows (engine : Engine) : List Row :=
  engine.journal.filterMap fun event ↦ match event with
    | .attempted row => some row
    | _ => none

/-- The renames carried out. -/
def applied (engine : Engine) : List Row :=
  engine.rows.filter (·.refusal.isNone)

/-- The renames refused. -/
def collisions (engine : Engine) : List Row :=
  engine.rows.filter (·.refusal.isSome)

def note (engine : Engine) (event : Event) : Engine :=
  { engine with journal := engine.journal ++ [event] }

/-- Carries out one request. -/
def rename (engine : Engine) (idiom : String) (request : Request) : Engine × Outcome :=
  match engine.store.bindings[request.binding]? with
  | none => (engine, .unchanged)
  | some b =>
    if b.name = request.name then (engine, .unchanged)
    else
      let row : Row := ⟨idiom, b.name, request.name, b.line, none⟩
      match engine.store.rename engine.edits request.binding request.name with
      | .ok (store, edits) =>
        ({ engine with store, edits }.note (.attempted row), .renamed)
      | .error collision =>
        (engine.note (.attempted { row with refusal := some collision.refusal }), .collision)

/-- Carries out requests in order. -/
def apply (engine : Engine) (idiom : String) : List Request → Engine × List Outcome
  | [] => (engine, [])
  | request :: rest =>
    let (engine, outcome) := engine.rename idiom request
    let (engine, outcomes) := engine.apply idiom rest
    (engine, outcome :: outcomes)

end Engine

end Relabel
