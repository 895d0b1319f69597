import Relabel.Labeling.Run
import Relabel.Settings.Basic
import Relabel.Source.Program

/-!
# Labelling a text

The whole way of one program: it is read, labelled by the standard passes with a registry of its
own, and printed. The events of the run are kept also if the run fails.
-/

namespace Relabel

/-- Why a text was not labelled. -/
inductive Obstacle where
  | reading (fault : ReadFault)
  | labeling (fault : Fault)
deriving Repr, DecidableEq

def Obstacle.message : Obstacle → String
  | reading fault => fault.message
  | labeling fault => fault.message

/-- A labelled text and what was done to it. -/
structure LabeledText where
  code : String
  lineCount : Nat
  matchCount : Nat
  passes : List String
  applied : List Row
  collisions : List Row
deriving Repr, DecidableEq

structure Attempt where
  events : List Event := []
  result : Except Obstacle LabeledText

namespace Attempt

def failed (obstacle : Obstacle) : Attempt :=
  { result := .error obstacle }

/-- Prints what a run has left, if it came to its end. -/
def ofRun (source : Source) : Labeling × Option Fault → Attempt
  | (l, some fault) => { events := l.engine.journal, result := .error (.labeling fault) }
  | (l, none) =>
    { events := l.engine.journal
      result := match (l.engine.edits.apply source.tree).render with
        | .error fault => .error (.labeling (.printing fault))
        | .ok code => .ok {
            code
            lineCount := source.lineCount
            matchCount := l.found.length
            passes := l.passes
            applied := l.engine.applied
            collisions := l.engine.collisions } }

def ofSource (settings : Settings) (source : Source) : Attempt :=
  match settings.registry with
  | .error fault => failed (.labeling (.registry fault))
  | .ok registry =>
    match Store.analyze source.tree with
    | .error fault => failed (.labeling (.tree fault))
    | .ok store =>
      ofRun source ((Labeling.start store {} registry).runPasses source.tree Pass.standard)

/-- The attempt at one text. -/
def ofText (settings : Settings) (text : String) : Attempt :=
  match Source.parse text with
  | .error fault => failed (.reading fault)
  | .ok source => ofSource settings source

/-- The descriptions of the passes that were started. -/
def started (a : Attempt) : List String :=
  (Pass.standard.filter fun pass ↦ a.events.contains (.passStarted pass.name)).map
    (·.description)

end Attempt

end Relabel
