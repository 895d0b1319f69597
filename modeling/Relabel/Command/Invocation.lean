import Relabel.Command.Arguments

/-!
# Invocations

What a run is asked to do. The first argument that is no switch names a command, and the command
reads the arguments after it. A path that has to be there is looked up at once.
-/

namespace Relabel.Command

inductive Action where
  | label | analyze | idioms
deriving Repr, DecidableEq

namespace Action

def all : List Action := [label, analyze, idioms]

def name : Action → String
  | label => "label"
  | analyze => "analyze"
  | idioms => "idioms"

def forms : Action → List Form
  | label =>
    [{ switch := .output, long := "--output", short := some 'o', takesValue := true },
      { switch := .lead, long := "--prefix", takesValue := true },
      { switch := .quiet, long := "--quiet" },
      { switch := .debug, long := "--debug" },
      { switch := .debugFile, long := "--debug-file", takesValue := true },
      { switch := .help, long := "--help" }]
  | analyze =>
    [{ switch := .lead, long := "--prefix", takesValue := true },
      { switch := .help, long := "--help" }]
  | idioms => [{ switch := .help, long := "--help" }]

end Action

/-- The switches before the name of a command. -/
def globalForms : List Form :=
  [{ switch := .version, long := "--version" }, { switch := .help, long := "--help" }]

/-- The two lines on how a command is used, or on how to name one. -/
def usage : Option Action → List String
  | none => ["Usage: jslabel [OPTIONS] COMMAND [ARGS]...", "Try 'jslabel --help' for help."]
  | some action =>
    let argument := if action = .idioms then "" else " INPUT_PATH"
    ["Usage: jslabel " ++ action.name ++ " [OPTIONS]" ++ argument,
      "Try 'jslabel " ++ action.name ++ " --help' for help."]

/-- A fault in the arguments of a command, or in those before it. -/
structure Misuse where
  action : Option Action
  fault : UsageFault
deriving Repr, DecidableEq

/-- What is told about a misuse. -/
def Misuse.lines (m : Misuse) : List String :=
  let told := ["Error: " ++ m.fault.message]
  if m.fault.isBare then told else usage m.action ++ [""] ++ told

structure LabelOptions where
  output : Option Path := none
  lead : Option String := none
  quiet : Bool := false
  debug : Bool := false
  debugFile : Option Path := none
deriving Repr, DecidableEq

inductive Invocation where
  | label (input : Path) (options : LabelOptions)
  | analyze (input : Path) (lead : Option String)
  | idioms
  | version
  | help (action : Option Action)
deriving Repr, DecidableEq

namespace Invocation

/-- The path among the arguments, which has to be there. -/
def inputPath (folder : Folder) (noun : String) (allowsDirectory : Bool) :
    List String → Except UsageFault (Path × List String)
  | [] => .error .argumentMissing
  | text :: rest =>
    match folder.lookText? text with
    | none => .error (.pathMissing noun text)
    | some .directory =>
      if allowsDirectory then .ok (.ofText text, rest) else .error (.pathIsDirectory noun text)
    | some (.file _) => .ok (.ofText text, rest)

def noMore : List String → Except UsageFault Unit
  | [] => .ok ()
  | rest => .error (.extraArguments rest)

def ofArguments (folder : Folder) (action : Action) (a : Arguments) :
    Except UsageFault Invocation :=
  if a.has .help then .ok (.help (some action))
  else match action with
    | .label => do
      let (input, rest) ← inputPath folder "Path" true a.others
      noMore rest
      return .label input {
        output := (a.value? .output).map .ofText
        lead := a.value? .lead
        quiet := a.has .quiet
        debug := a.has .debug
        debugFile := (a.value? .debugFile).map .ofText }
    | .analyze => do
      let (input, rest) ← inputPath folder "File" false a.others
      noMore rest
      return .analyze input (a.value? .lead)
    | .idioms => do
      noMore a.others
      return .idioms

/-- What the words of a command line ask for. -/
def ofWords (folder : Folder) (words : List String) : Except Misuse Invocation :=
  match Arguments.read globalForms false words with
  | .error fault => .error ⟨none, fault⟩
  | .ok globals =>
    match globals.switches, globals.others with
    | (.version, _) :: _, _ => .ok .version
    | _ :: _, _ => .ok (.help none)
    | [], [] => .ok (.help none)
    | [], name :: rest =>
      match Action.all.find? (·.name == name) with
      | none => .error ⟨none, .unknownCommand name⟩
      | some action =>
        ((Arguments.read action.forms true rest).bind (ofArguments folder action)).mapError
          fun fault ↦ ⟨some action, fault⟩

end Invocation

end Relabel.Command
