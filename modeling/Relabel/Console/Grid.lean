import Relabel.Console.Width

/-!
# Tables on a terminal

A table has a title centred over it, a head between heavy rules, and rows between light ones. Each
column is as wide as its widest cell, with a blank on either side.
-/

namespace Relabel.Console

structure Column where
  title : String
  alignsRight : Bool := false
deriving Repr, DecidableEq

structure Grid where
  title : String
  columns : List Column
  rows : List (List String) := []
deriving Repr, DecidableEq

namespace Grid

def blanks (n : Nat) : String :=
  String.ofList (List.replicate n ' ')

/-- A text filled up to a width. -/
def pad (alignsRight : Bool) (size : Nat) (text : String) : String :=
  let gap := blanks (size - width text)
  if alignsRight then gap ++ text else text ++ gap

/-- The widths of the columns. -/
def sizes (g : Grid) : List Nat :=
  g.columns.zipIdx.map fun (column, i) ↦
    (g.rows.map fun row ↦ width (row.getD i "")).foldl max (width column.title)

/-- The signs at the left end, between two columns, at the right end, and in a rule. -/
structure Line where
  left : String
  between : String
  right : String
  rule : Char

def topLine : Line := ⟨"┏", "┳", "┓", '━'⟩

def headLine : Line := ⟨"┃", "┃", "┃", ' '⟩

def underHead : Line := ⟨"┡", "╇", "┩", '━'⟩

def rowLine : Line := ⟨"│", "│", "│", ' '⟩

def bottomLine : Line := ⟨"└", "┴", "┘", '─'⟩

def Line.join (line : Line) (cells : List String) : String :=
  line.left ++ line.between.intercalate cells ++ line.right

/-- A rule over columns of some widths. -/
def Line.ruled (line : Line) (sizes : List Nat) : String :=
  line.join (sizes.map fun size ↦ String.ofList (List.replicate (size + 2) line.rule))

/-- One line of cells. -/
def cells (g : Grid) (line : Line) (row : List String) : String :=
  line.join ((g.columns.zip (g.sizes.zip row)).map fun (column, size, text) ↦
    " " ++ pad column.alignsRight size text ++ " ")

def totalWidth (g : Grid) : Nat :=
  total (g.sizes.map (· + 3)) + 1

def lines (g : Grid) : List String :=
  let margin := blanks ((g.totalWidth - width g.title) / 2)
  [margin ++ g.title, topLine.ruled g.sizes, g.cells headLine (g.columns.map (·.title)),
    underHead.ruled g.sizes] ++ g.rows.map (g.cells rowLine) ++ [bottomLine.ruled g.sizes]

end Grid

end Relabel.Console
