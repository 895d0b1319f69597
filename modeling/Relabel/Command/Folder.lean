import Relabel.Command.Path
import Relabel.Data.Table
import Relabel.Text.Utf8

/-!
# Folders

The files that a run sees and changes. A place is the list of names that leads to it from the root.
Whatever stands above a place is a directory. A path without a root starts at the working
directory, and a step up needs a directory to start from.
-/

namespace Relabel

inductive Entry where
  | file (bytes : List UInt8)
  | directory
deriving Repr, DecidableEq, Inhabited

abbrev Location := List String

inductive FileFault where
  | missing (path : String)
  | exists (path : String)
  | notDirectory (path : String)
  | isDirectory (path : String)
deriving Repr, DecidableEq

def FileFault.message : FileFault → String
  | missing path => "[Errno 2] No such file or directory: " ++ Text.quote path
  | .exists path => "[Errno 17] File exists: " ++ Text.quote path
  | notDirectory path => "[Errno 20] Not a directory: " ++ Text.quote path
  | isDirectory path => "[Errno 21] Is a directory: " ++ Text.quote path

structure Folder where
  entries : Table Location Entry := {}
  /-- The working directory. -/
  home : Location := []
deriving Repr, DecidableEq, Inhabited

namespace Folder

/-- Whether a place lies strictly above another one. -/
def isAbove (place other : Location) : Bool :=
  place.isPrefixOf other && place != other

def isDirectory (f : Folder) (place : Location) : Bool :=
  place.isPrefixOf f.home || f.entries.get? place == some .directory ||
    f.entries.keys.any (isAbove place)

/-- What stands at a place. -/
def get? (f : Folder) (place : Location) : Option Entry :=
  if f.isDirectory place then some .directory else f.entries.get? place

/-- Why nothing can stand below a place. -/
inductive Blocked where
  | missing | file
deriving Repr, DecidableEq

/-- The place that a name in a path leads to from a place. -/
def step (place : Location) (part : String) : Location :=
  if part = ".." then place.dropLast
  else if part = "." || part = "" then place
  else place ++ [part]

/-- Follows names from a directory. -/
def follow (f : Folder) (place : Location) : List String → Except Blocked Location
  | [] => .ok place
  | part :: rest =>
    if f.isDirectory place then
      f.follow (step place part) rest
    else .error (if (f.entries.get? place).isSome then .file else .missing)

/-- The place that a path leads to, whether or not anything stands there. -/
def locate (f : Folder) (p : Path) : Except FileFault Location :=
  (f.follow (if p.isAbsolute then [] else f.home) p.parts).mapError fun blocked ↦
    match blocked with
    | .missing => .missing p.text
    | .file => .notDirectory p.text

/-- What a path leads to. -/
def look? (f : Folder) (p : Path) : Option Entry :=
  match f.locate p with
  | .ok place => f.get? place
  | .error _ => none

/-- What the text of a path leads to. A slash or a dot at the end of the text asks for a
directory. -/
def lookText? (f : Folder) (text : String) : Option Entry :=
  let ending := (Path.splitSlashes text.toList).getLast?
  let entry := f.look? (.ofText text)
  if text.isEmpty then none
  else if ending == some [] || ending == some ['.'] then entry.filter (· == .directory)
  else entry

def read (f : Folder) (p : Path) : Except FileFault (List UInt8) := do
  let place ← f.locate p
  match f.get? place with
  | some (.file bytes) => return bytes
  | some .directory => throw (.isDirectory p.text)
  | none => throw (.missing p.text)

def set (f : Folder) (place : Location) (entry : Entry) : Folder :=
  { f with entries := f.entries.set place entry }

/-- Writes a file into a directory that is there. -/
def write (f : Folder) (p : Path) (bytes : List UInt8) : Except FileFault Folder := do
  let place ← f.locate p
  match f.get? place with
  | some .directory => throw (.isDirectory p.text)
  | some (.file _) => return f.set place (.file bytes)
  | none =>
    if f.isDirectory place.dropLast then return f.set place (.file bytes)
    else throw (.missing p.text)

/-- Adds to the end of a file, which is made if it is not there. -/
def append (f : Folder) (p : Path) (bytes : List UInt8) : Except FileFault Folder := do
  let before := match f.look? p with
    | some (.file old) => old
    | _ => []
  f.write p (before ++ bytes)

/-- Makes a directory and all directories above it that are not there, up to a number of steps. -/
def makeDirectory (f : Folder) (p : Path) : Nat → Except FileFault Folder
  | 0 => .error (.missing p.text)
  | steps + 1 =>
    match f.locate p with
    | .ok place =>
      match f.get? place with
      | some .directory => .ok f
      | some (.file _) => .error (.exists p.text)
      | none => .ok (f.set place .directory)
    | .error (.missing _) => do
      let f ← f.makeDirectory p.parent steps
      let place ← f.locate p
      return if f.isDirectory place then f else f.set place .directory
    | .error fault => .error fault

/-- Writes a file and makes the directories above it. -/
def save (f : Folder) (p : Path) (bytes : List UInt8) : Except FileFault Folder := do
  let f ← f.makeDirectory p.parent (p.parts.length + 1)
  f.write p bytes

/-- The names that lead from a directory to everything below it. -/
def below (f : Folder) (place : Location) : List (List String) :=
  (f.entries.keys.filter (isAbove place)).flatMap (fun key ↦
    let names := key.drop place.length
    (List.range names.length).map fun i ↦ names.take (i + 1)) |>.eraseDups

end Folder

end Relabel
