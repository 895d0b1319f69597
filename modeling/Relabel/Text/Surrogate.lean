/-!
# Halves of surrogate pairs

A text may hold half of a surrogate pair that stands alone. A half has a number, but it is no
character, so one of the last characters of the private planes stands for it, and nothing else uses
those characters.
-/

namespace Relabel.Text

def firstHalf : Nat := 0xD800

def lastHalf : Nat := 0xDFFF

/-- The character that stands for the first half. -/
def firstCarrier : Nat := 0x10F800

def isHalf (code : Nat) : Bool :=
  firstHalf ≤ code && code ≤ lastHalf

/-- The character with a number, or the one that stands for the half with that number. -/
def ofCode (code : Nat) : Char :=
  if isHalf code then Char.ofNat (code - firstHalf + firstCarrier) else Char.ofNat code

/-- The number of the half that a character stands for. -/
def half? (c : Char) : Option Nat :=
  if firstCarrier ≤ c.toNat then some (c.toNat - firstCarrier + firstHalf) else none

end Relabel.Text
