import Relabel.Command.Folder
import Relabel.Settings.Basic

/-!
# Which files are labelled, and where to

In a directory every file whose name has the ending of programs is labelled, unless it has the
ending of outputs or lies among installed dependencies. The files come in the order of their paths.
An output stands next to its input, under the input's name with the ending exchanged.
-/

namespace Relabel.Command

def programEnding : String := ".js"

def dependencies : String := "node_modules"

/-- Whether a file of a directory is to be labelled. -/
def isSelected (s : Settings) (file : Path) : Bool :=
  file.name.endsWith programEnding && !file.name.endsWith s.outputSuffix &&
    !(s.skipsDependencies && file.parts.contains dependencies)

/-- Everything below a directory. -/
def contents (f : Folder) (directory : Path) : List Path :=
  match f.locate directory with
  | .ok place => (f.below place).map fun names ↦
      { directory with parts := directory.parts ++ names }
  | .error _ => []

/-- The files of a directory that are to be labelled. -/
def selected (f : Folder) (s : Settings) (directory : Path) : List Path :=
  ((contents f directory).filter (isSelected s)).mergeSort Path.le

/-- The name of the output of a file. -/
def outputName (s : Settings) (file : Path) : String :=
  file.stem ++ s.outputSuffix

/-- The path of the output of a file, unless the name of the output is no single name. -/
def outputPath? (s : Settings) (file : Path) : Option Path :=
  file.withName? (outputName s file)

/-- The path of the output in another directory: the way from the input directory is kept. -/
def relocated (directory target file : Path) : Path :=
  target.append { parts := file.parts.drop directory.parts.length }

end Relabel.Command
