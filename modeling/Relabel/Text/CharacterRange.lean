/-!
# Ranges of characters

Membership of a character in a table of closed ranges of code points.
-/

namespace Relabel.Text

def inRanges (ranges : Array (Nat × Nat)) (c : Char) : Bool :=
  ranges.any (fun range ↦ range.1 ≤ c.toNat && c.toNat ≤ range.2)

end Relabel.Text
