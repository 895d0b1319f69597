import Relabel.Command.Invocation
import Relabel.Command.Selection
import Relabel.Command.Session
import Relabel.Command.Summary
import Relabel.Settings.Load

/-!
# Runs

The commands. Labelling a directory goes on after a file that cannot be read as a program, that
breaks the rules of trees, or whose names clash; labelling one file stops there.
-/

namespace Relabel.Command

open Running

/-- What a run can see. -/
structure World where
  folder : Folder
  environment : List (String × String) := []
  /-- The time as it stands in records. -/
  time : String
  /-- The time as it stands in the names of files. -/
  stamp : String

/-- What a run leaves behind. -/
structure Ending where
  exitCode : Nat
  output : List String := []
  complaints : List String := []
  folder : Folder
  escape : Option Escape := none

def variableFile : Path :=
  .ofText ".env"

/-- The settings of a run, with those that its arguments give. -/
def loadSettings (w : World) (given : List (String × Json)) : Running Settings := do
  let file ← match (← get).folder.look? variableFile with
    | some (.file bytes) => some <$> orEscape .decoding (Text.ofFile bytes)
    | _ => pure none
  orEscape .settings (Settings.load given w.environment file)

def givenLead (lead : Option String) : List (String × Json) :=
  (lead.map fun text ↦ (Settings.leadKey, Json.text text)).toList

def givenQuiet (quiet : Bool) : List (String × Json) :=
  if quiet then [(Settings.quietKey, .boolean true)] else []

/-- Whether a directory run reports an obstacle and goes on. -/
def isReported : Obstacle → Bool
  | .reading (.refused _) => true
  | .reading .headlessTemplate => false
  | .labeling (.tree _) => true
  | .labeling (.registry _) => true
  | .labeling _ => false

def labelText (s : Settings) (text : String) : Running LabeledText := do
  let attempt := Attempt.ofText s text
  if !s.quiet then
    for description in attempt.started do
      say ("[dim]Labelling " ++ description ++ "[/dim]")
  for event in attempt.events do
    record { level := .debug, message := event.message }
  orEscape .labeling attempt.result

/-- Labels a file and saves the output. -/
def labelFile (s : Settings) (file : Path) (output : Option Path) : Running FileReport := do
  inform (String.ofList (List.replicate 80 '='))
  inform ("Starting processing file: " ++ file.text)
  let result ← labelText s (← readText file)
  inform "Labeling finished" (labeledJson result)
  let target ← match output.or (outputPath? s file) with
    | some path => pure path
    | none => escape (.outputName (outputName s file))
  saveText target result.code
  return .labeled file target result

/-- Labels a file of a directory; obstacles are reported. -/
def labelMember (s : Settings) (file : Path) (output : Option Path) : Running FileReport := do
  try labelFile s file output
  catch
    | .escape (.labeling obstacle) =>
      if isReported obstacle then
        say ("[red]Error processing " ++ file.text ++ ": " ++ obstacle.message ++ "[/red]")
        record {
          level := .error
          message := "Failed: " ++ file.text
          data := some (.object [("error", .text obstacle.message)]) }
        pure (.failed file obstacle.message)
      else escape (.labeling obstacle)
    | stop => throw stop

def labelDirectory (s : Settings) (directory : Path) (target : Option Path) :
    Running (List FileReport) := do
  let files := selected (← get).folder s directory
  say ("[blue]Found " ++ toString files.length ++ " JavaScript files in " ++ directory.text ++
    "[/blue]")
  inform ("Processing directory: " ++ directory.text) (some (.object [
    ("js_files_count", .count files.length),
    ("js_files", .texts ((files.take 10).map Path.text))]))
  files.mapM fun file ↦
    labelMember s file (target.map fun target ↦ relocated directory target file)

/-- Tells of a text that is no program, and ends the run. -/
def stopAtSource {α : Type} (file : Path) (fault : SourceFault) : Running α := do
  say ("[red]Parse error in " ++ file.text ++ ": " ++ fault.message ++ "[/red]")
  record {
    level := .error
    message := "Parse failed"
    data := some (.object [("error", .text fault.message), ("line", .count fault.line)]) }
  throw (.exit 1)

/-- Runs an action on a file, and ends the run if the file is no program. -/
def onProgram {α : Type} (file : Path) (action : Running α) : Running α := do
  try action
  catch
    | .escape (.labeling (.reading (.refused fault))) => stopAtSource file fault
    | stop => throw stop

def optionalText (text : Option String) : Json :=
  (text.map Json.text).getD .null

def startLog (w : World) (input : Path) (options : LabelOptions) : Running Path := do
  let path := options.debugFile.getD (.ofText ("jslabel_debug_" ++ w.stamp ++ ".log"))
  openLog path
  say ("[yellow]Debug logging enabled: " ++ path.text ++ "[/yellow]")
  inform "Debug logging started" (some (.object [
    ("input_path", .text input.text),
    ("output_path", optionalText (options.output.map Path.text)),
    ("prefix", optionalText options.lead)]))
  return path

def label (w : World) (input : Path) (options : LabelOptions) : Running Unit := do
  let log ← if options.debug then some <$> startLog w input options else pure none
  let s ← loadSettings w (givenLead options.lead ++ givenQuiet options.quiet)
  inform "Configuration loaded" s.toJson
  let reports ← match (← get).folder.look? input with
    | some (.file _) => onProgram input ((fun r ↦ [r]) <$> labelFile s input options.output)
    | _ => labelDirectory s input options.output
  showGrid (summaryGrid reports)
  inform "Processing complete" (some (.object [("results", .list (reports.map (·.toJson)))]))
  if let some path := log then
    say ("\n[yellow]Debug log saved to: " ++ path.text ++ "[/yellow]")
  if reports.any (·.isFailed) then throw (.exit 1)

def analyze (w : World) (input : Path) (lead : Option String) : Running Unit := do
  let s ← loadSettings w (givenLead lead ++ givenQuiet true)
  let text ← readText input
  let result ← onProgram input (labelText s text)
  say ("[blue]File:[/blue] " ++ input.text)
  say ("[blue]Matches:[/blue] " ++ toString result.matchCount)
  showGrid (renameGrid result.applied)
  for row in result.collisions do
    say (collisionLine row)

def perform (w : World) : Invocation → Running Unit
  | .label input options => label w input options
  | .analyze input lead => analyze w input lead
  | .idioms => showGrid (catalogueGrid Pass.standard)
  | .version => write ["jslabel, version 0.1.0"]
  | .help action => write ((usage action).take 1)

/-- The run that the words of a command line ask for. -/
def run (w : World) (words : List String) : Ending :=
  match Invocation.ofWords w.folder words with
  | .error misuse => { exitCode := 2, complaints := misuse.lines, folder := w.folder }
  | .ok invocation =>
    let start : Session := { folder := w.folder, time := w.time }
    let (result, session) := ((perform w invocation).run).run start
    let ending : Ending := { exitCode := 0, output := session.output, folder := session.folder }
    match result with
    | .ok _ => ending
    | .error (.exit code) => { ending with exitCode := code }
    | .error (.escape cause) => { ending with exitCode := 1, escape := some cause }

end Relabel.Command
