import Relabel.Labeling.Engine
import Relabel.Labeling.Pass
import Relabel.Scope.Analysis

/-!
# Labelling a program

Each pass walks the program once. At every node the idioms for its kind are asked in order of
priority, and the first match is carried out before the walk goes on below the node. What was done
before a fault stays done.
-/

namespace Relabel

/-- What an idiom found on a node. -/
structure Match where
  idiom : Idiom
  node : Node
  requests : List Request

/-- The state of a labelling run. -/
structure Labeling where
  engine : Engine
  registry : Registry
  passes : List String := []
  found : List Match := []

namespace Labeling

/-- The tree as the edits leave it is looked at through the engine. -/
def context (l : Labeling) : Recognition.Context :=
  ⟨l.engine.store, l.engine.edits⟩

/-- Asks one idiom about a node. -/
def ask (l : Labeling) (n : Node) (idiom : Idiom) :
    Except Fault (Option (List Request)) × Labeling :=
  let (answer, registry) := (idiom.recognise l.context (l.engine.edits.apply n)).run l.registry
  (answer, { l with registry })

/-- Asks idioms about a node until one of them finds something, and carries that out. -/
def visit (l : Labeling) (n : Node) : List Idiom → Labeling × Option Fault
  | [] => (l, none)
  | idiom :: rest =>
    match l.ask n idiom with
    | (.error fault, l) => (l, some fault)
    | (.ok none, l) => l.visit n rest
    | (.ok (some requests), l) =>
      let (engine, _) := l.engine.apply idiom.label requests
      ({ l with engine, found := l.found ++ [⟨idiom, n, requests⟩] }, none)

/-- The children of a node as the edits leave it, paired with the node. -/
def descents (l : Labeling) (n : Node) : List (Node × Option Node) :=
  (l.engine.edits.look n).children.map fun child ↦ (child.2, some n)

/-- Walks from a stack of nodes, each with its parent, and visits each of them. -/
def sweep (l : Labeling) (table : Table Kind (List Idiom)) :
    List (Node × Option Node) → Labeling × Option Fault
  | [] => (l, none)
  | (n, parent) :: rest =>
    if n.isTyped then
      let idioms := (n.kind.bind table.get?).getD []
      match l.visit n idioms with
      | (l, some fault) => (l, some fault)
      | (l, none) => l.sweep table (l.descents n ++ rest)
    else (l, some (.tree (.untyped (parent.bind (·.kind)))))
termination_by stack => total (stack.map (·.1.size))
decreasing_by
  have fewer := l.engine.edits.total_size_children_look_le n
  have smaller := n.total_size_children_lt
  simp only [descents, List.map_append, total_append, List.map_cons, total_cons,
    List.map_map, Function.comp_def]
  omega

def note (l : Labeling) (event : Event) : Labeling :=
  { l with engine := l.engine.note event }

/-- Runs one pass over a tree. -/
def runPass (l : Labeling) (tree : Node) (pass : Pass) : Labeling × Option Fault :=
  let before := l.found.length
  match (l.note (.passStarted pass.name)).sweep pass.table [(tree, none)] with
  | (l, some fault) => (l, some fault)
  | (l, none) =>
    let l := l.note (.passFinished pass.name (l.found.length - before))
    ({ l with passes := l.passes ++ [pass.name] }, none)

/-- Runs passes in order, up to the first fault. -/
def runPasses (l : Labeling) (tree : Node) : List Pass → Labeling × Option Fault
  | [] => (l, none)
  | pass :: rest =>
    match l.runPass tree pass with
    | (l, some fault) => (l, some fault)
    | (l, none) => l.runPasses tree rest

/-- Starts a run on an analysed program. -/
def start (store : Store) (edits : Edits) (registry : Registry) : Labeling :=
  { engine := { store, edits }, registry }

end Labeling

end Relabel
