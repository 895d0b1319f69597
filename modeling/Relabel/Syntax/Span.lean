/-!
# Positions in a text

Lines are counted from one and columns from zero. Positions are ordered by line, then by column.
-/

namespace Relabel

structure Position where
  row : Int
  column : Int
deriving Repr, DecidableEq, Inhabited

namespace Position

def lt (a b : Position) : Bool :=
  if a.row ≠ b.row then a.row < b.row else a.column < b.column

def le (a b : Position) : Bool :=
  a = b || a.lt b

end Position

/-- The part of a text from `first` up to, but not including, `last`. -/
structure Span where
  first : Position
  last : Position
deriving Repr, DecidableEq, Inhabited

end Relabel
