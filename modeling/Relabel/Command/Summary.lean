import Relabel.Command.Path
import Relabel.Console.Grid
import Relabel.Labeling.Text

/-!
# Summaries

What is told about labelled files: a row of a table and an entry of a log for each of them, and a
table of renames or of idioms.
-/

namespace Relabel.Command

open Console

/-- How a file fared. -/
inductive FileReport where
  | labeled (file output : Path) (result : LabeledText)
  | failed (file : Path) (reason : String)
deriving Repr, DecidableEq

namespace FileReport

def isFailed : FileReport → Bool
  | labeled _ _ _ => false
  | failed _ _ => true

def row : FileReport → List String
  | labeled file _ result =>
    [file.text, toString result.lineCount, toString result.matchCount,
      toString result.applied.length, toString result.collisions.length, "✓"]
  | failed file _ => [file.text, "0", "0", "0", "0", "✗"]

def toJson : FileReport → Json
  | labeled file output result =>
    .object [("file", .text file.text), ("lines", .count result.lineCount),
      ("matches", .count result.matchCount), ("renamed", .count result.applied.length),
      ("collisions", .count result.collisions.length), ("output", .text output.text)]
  | failed file reason => .object [("file", .text file.text), ("error", .text reason)]

end FileReport

def summaryGrid (reports : List FileReport) : Grid where
  title := "Labeling Summary"
  columns := ["File", "Lines", "Matches", "Renamed", "Collisions", "Status"].map ({ title := · })
  rows := reports.map FileReport.row

def refusalText (row : Row) : String :=
  (row.refusal.map Refusal.message).getD ""

/-- What a log tells about a labelled text. -/
def labeledJson (result : LabeledText) : Json :=
  .object [("passes", .texts result.passes),
    ("renamed", .texts (result.applied.map fun row ↦
      row.oldName ++ " -> " ++ row.newName ++ " (" ++ row.idiom ++ ")")),
    ("collisions", .texts (result.collisions.map fun row ↦
      row.oldName ++ " -> " ++ row.newName ++ ": " ++ refusalText row))]

def renameGrid (rows : List Row) : Grid where
  title := "Renames"
  columns := [{ title := "Line", alignsRight := true }, { title := "Idiom" }, { title := "Old" },
    { title := "New" }]
  rows := rows.map fun row ↦ [toString row.line, row.idiom, row.oldName, row.newName]

def collisionLine (row : Row) : String :=
  "[yellow]  collision (line " ++ toString row.line ++ ") " ++ row.oldName ++ " -> " ++
    row.newName ++ ": " ++ refusalText row ++ "[/yellow]"

/-- The rows of one pass: its idioms by kind of node and priority. -/
def passRows (pass : Pass) : List (List String) :=
  pass.table.entries.flatMap fun (kind, idioms) ↦ idioms.map fun idiom ↦
    [pass.name, idiom.label, kind.tag, toString idiom.priority, idiom.description]

def catalogueGrid (passes : List Pass) : Grid where
  title := "Idiom Catalogue"
  columns := [{ title := "Pass" }, { title := "Matcher" }, { title := "Node Type" },
    { title := "Priority", alignsRight := true }, { title := "Description" }]
  rows := passes.flatMap passRows

end Relabel.Command
