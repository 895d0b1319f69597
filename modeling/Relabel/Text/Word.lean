import Relabel.Text.Letter

/-!
# Words

The characters of which a printed word may consist. They are those of identifiers, but of a later
edition of the character set: it knows more letters and marks, admits two middle dots, and counts
the vertical tilde, which is a letter by its category, as punctuation.
-/

namespace Relabel.Text

/-- Letters of the later edition, in increasing order. -/
def laterLetterRanges : Array (Nat × Nat) := #[
  (0x88F, 0x88F), (0xC5C, 0xC5C), (0xCDC, 0xCDC), (0x1C89, 0x1C8A), (0xA7CB, 0xA7CF),
  (0xA7D2, 0xA7D2), (0xA7D4, 0xA7D4), (0xA7DA, 0xA7DC), (0xA7F1, 0xA7F1), (0x105C0, 0x105F3),
  (0x10940, 0x10959), (0x10D4A, 0x10D65), (0x10D6F, 0x10D85), (0x10EC2, 0x10EC7),
  (0x1123F, 0x11240), (0x11380, 0x11389), (0x1138B, 0x1138B), (0x1138E, 0x1138E),
  (0x11390, 0x113B5), (0x113B7, 0x113B7), (0x113D1, 0x113D1), (0x113D3, 0x113D3),
  (0x11BC0, 0x11BE0), (0x11DB0, 0x11DDB), (0x11F02, 0x11F02), (0x11F04, 0x11F10),
  (0x11F12, 0x11F33), (0x1342F, 0x1342F), (0x13441, 0x13446), (0x13460, 0x143FA),
  (0x16100, 0x1611D), (0x16D40, 0x16D6C), (0x16EA0, 0x16EB8), (0x16EBB, 0x16ED3),
  (0x16FF2, 0x16FF6), (0x187F8, 0x187FF), (0x18CFF, 0x18CFF), (0x18D09, 0x18D1E),
  (0x18D80, 0x18DF2), (0x1B132, 0x1B132), (0x1B155, 0x1B155), (0x1DF25, 0x1DF2A),
  (0x1E030, 0x1E06D), (0x1E4D0, 0x1E4EB), (0x1E5D0, 0x1E5ED), (0x1E5F0, 0x1E5F0),
  (0x1E6C0, 0x1E6DE), (0x1E6E0, 0x1E6E2), (0x1E6E4, 0x1E6E5), (0x1E6E7, 0x1E6ED),
  (0x1E6F0, 0x1E6F4), (0x1E6FE, 0x1E6FF), (0x2B739, 0x2B73F), (0x2CEA2, 0x2CEAD),
  (0x2EBF0, 0x2EE5D), (0x31350, 0x33479)]

/-- Marks, digits and middle dots of the later edition, in increasing order. -/
def laterMarkRanges : Array (Nat × Nat) := #[
  (0x897, 0x897), (0xCF3, 0xCF3), (0xECE, 0xECE), (0x1ACF, 0x1ADD), (0x1AE0, 0x1AEB),
  (0x30FB, 0x30FB), (0xFF65, 0xFF65), (0x10D40, 0x10D49), (0x10D69, 0x10D6D),
  (0x10EFA, 0x10EFF), (0x11241, 0x11241), (0x113B8, 0x113C0), (0x113C2, 0x113C2),
  (0x113C5, 0x113C5), (0x113C7, 0x113CA), (0x113CC, 0x113D0), (0x113D2, 0x113D2),
  (0x113E1, 0x113E2), (0x116D0, 0x116E3), (0x11B60, 0x11B67), (0x11BF0, 0x11BF9),
  (0x11DE0, 0x11DE9), (0x11F00, 0x11F01), (0x11F03, 0x11F03), (0x11F34, 0x11F3A),
  (0x11F3E, 0x11F42), (0x11F50, 0x11F5A), (0x13440, 0x13440), (0x13447, 0x13455),
  (0x1611E, 0x16139), (0x16D70, 0x16D79), (0x1CCF0, 0x1CCF9), (0x1E08F, 0x1E08F),
  (0x1E4EC, 0x1E4F9), (0x1E5EE, 0x1E5EF), (0x1E5F1, 0x1E5FA), (0x1E6E3, 0x1E6E3),
  (0x1E6E6, 0x1E6E6), (0x1E6EE, 0x1E6EF), (0x1E6F5, 0x1E6F5)]

def verticalTilde : Char := '\u2e2f'

def isWordStart (c : Char) : Bool :=
  (isIdentifierStart c && c != verticalTilde) || inRanges laterLetterRanges c

def isWordPart (c : Char) : Bool :=
  (isIdentifierPart c && c != verticalTilde) || inRanges laterLetterRanges c ||
    inRanges laterMarkRanges c

def isWord : List Char → Bool
  | [] => false
  | c :: rest => isWordStart c && rest.all isWordPart

end Relabel.Text
