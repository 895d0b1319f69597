import Relabel.Command.Folder
import Relabel.Command.Log
import Relabel.Console.Grid
import Relabel.Console.Markup
import Relabel.Labeling.Text

/-!
# Sessions

The state of a run: the folder as it has become, the lines written to the terminal, and the log, if
there is one. A run ends early by its own decision, or because something went wrong that it does
not deal with; what was written before stays.
-/

namespace Relabel.Command

open Console

/-- What went wrong in a run that does not deal with it. -/
inductive Escape where
  | settings (fault : SettingsFault)
  | file (fault : FileFault)
  | decoding (fault : Text.Utf8Fault)
  | labeling (obstacle : Obstacle)
  /-- The name of an output is no single name. -/
  | outputName (name : String)
  | markup (fault : MarkupFault)
deriving Repr, DecidableEq

def Escape.message : Escape → String
  | settings fault => fault.message
  | file fault => fault.message
  | decoding fault => fault.message
  | labeling obstacle => obstacle.message
  | outputName name => "Invalid name " ++ Text.quote name
  | markup fault => fault.message

inductive Stop where
  | exit (code : Nat)
  | escape (cause : Escape)
deriving Repr, DecidableEq

structure Session where
  folder : Folder
  output : List String := []
  log : Option Path := none
  /-- The time as it stands in records. -/
  time : String

abbrev Running := ExceptT Stop (StateM Session)

namespace Running

def escape {α : Type} (cause : Escape) : Running α :=
  throw (.escape cause)

def orEscape {ε α : Type} (cause : ε → Escape) : Except ε α → Running α
  | .ok a => return a
  | .error fault => escape (cause fault)

def splitLines : List Char → List (List Char)
  | [] => [[]]
  | c :: rest =>
    if c == '\n' then [] :: splitLines rest
    else
      match splitLines rest with
      | line :: lines => (c :: line) :: lines
      | [] => [[c]]

def write (lines : List String) : Running Unit :=
  modify fun s ↦ { s with output := s.output ++ lines }

/-- Writes styled text. -/
def say (styled : String) : Running Unit := do
  let shown ← orEscape .markup (Markup.render styled)
  write ((splitLines shown.toList).map String.ofList)

/-- Writes a table, whose cells are styled text. -/
def showGrid (grid : Grid) : Running Unit := do
  let rows ← grid.rows.mapM fun row ↦ row.mapM fun cell ↦ orEscape .markup (Markup.render cell)
  write { grid with rows }.lines

/-- Adds a record to the log, if there is one. -/
def record (r : Record) : Running Unit :=
  modify fun s ↦
    match s.log with
    | none => s
    | some path =>
      match s.folder.append path (Text.Utf8.encode (r.text s.time)) with
      | .ok folder => { s with folder }
      | .error _ => s

def inform (message : String) (data : Option Json := none) : Running Unit :=
  record { level := .info, message, data }

/-- Starts a log in a file; records go to the end of what is there. -/
def openLog (path : Path) : Running Unit := do
  let s ← get
  let folder ← orEscape .file (s.folder.append path [])
  set { s with folder, log := some path }

def readText (path : Path) : Running String := do
  let bytes ← orEscape .file ((← get).folder.read path)
  orEscape .decoding (Text.ofFile bytes)

/-- Writes the text of a program and tells where. -/
def saveText (path : Path) (text : String) : Running Unit := do
  let s ← get
  let folder ← orEscape .file (s.folder.save path (Text.Utf8.encode text))
  set { s with folder }
  say ("[green]Saved output to: " ++ path.text ++ "[/green]")

end Running

end Relabel.Command
