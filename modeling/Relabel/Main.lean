import Relabel.Command.Run
import Std.Time.Format

/-!
# The command line

Takes in the files that the arguments name, the variables of the environment and the time, runs,
and carries out what the run leaves behind.
-/

namespace Relabel.Main

open Command

/-- Names of directories from the root. -/
def locationOf (home : Location) (text : String) : Location :=
  let path := Path.ofText text
  path.parts.foldl (fun place part ↦ if part = ".." then place.dropLast else place ++ [part])
    (if path.isAbsolute then [] else home)

def textOf (place : Location) : String :=
  "/" ++ "/".intercalate place

/-- Takes in what stands at a place, and below it to a depth. -/
def take : Nat → Location → IO (List (Location × Entry))
  | 0, _ => return []
  | depth + 1, place => do
    let real ← try some <$> IO.FS.realPath (textOf place) catch _ => pure none
    match real with
    | none => return []
    | some real =>
      if ← real.isDir then
        let inner ← (← real.readDir).toList.mapM fun entry ↦ take depth (place ++ [entry.fileName])
        return (place, .directory) :: inner.flatten
      else if ← real.pathExists then
        return [(place, .file (← IO.FS.readBinFile real).toList)]
      else return []

/-- The words that may name files: arguments, and what follows an equals sign in them. -/
def mentioned (words : List String) : List String :=
  words.flatMap fun word ↦
    let after := (word.toList.dropWhile (· != '=')).drop 1
    if word.startsWith "-" then [String.ofList after] else [word]

def takeFolder (words : List String) : IO Folder := do
  let home := (Path.ofText (← IO.currentDir).toString).parts
  let places := (variableFile.text :: mentioned words).filter (!·.isEmpty) |>.map (locationOf home)
  let entries ← places.mapM (take 64)
  return { entries := .ofList entries.flatten, home }

def takeEnvironment : IO (List (String × String)) := do
  let found ← Settings.variableNames.mapM fun name ↦ do
    return (← IO.getEnv name).map fun value ↦ (name, value)
  return found.filterMap id

/-- Writes the files that a run has changed. -/
def save (before after : Folder) : IO Unit := do
  for (place, entry) in after.entries.entries do
    if before.entries.get? place != some entry then
      match entry with
      | .directory => IO.FS.createDirAll (textOf place)
      | .file bytes =>
        IO.FS.createDirAll (textOf place.dropLast)
        IO.FS.writeBinFile (textOf place) ⟨bytes.toArray⟩

def run (words : List String) : IO UInt32 := do
  let folder ← takeFolder words
  let now ← Std.Time.PlainDateTime.now
  let world : World := {
    folder
    environment := ← takeEnvironment
    time := now.format "uuuu-MM-dd HH:mm:ss"
    stamp := now.format "uuuuMMdd_HHmmss" }
  let ending := Command.run world words
  save folder ending.folder
  for line in ending.output do IO.println line
  for line in ending.complaints do IO.eprintln line
  if let some cause := ending.escape then IO.eprintln cause.message
  return ending.exitCode.toUInt32

end Relabel.Main

def main (words : List String) : IO UInt32 :=
  Relabel.Main.run words
