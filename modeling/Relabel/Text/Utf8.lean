import Relabel.Text.Quoted

/-!
# Texts as bytes

A text is stored as a sequence of bytes, one to four for a character. Reading stops at the first
place where the bytes are not the shortest form of a character, and tells how many bytes belong
together there. A text has line feeds for line ends, whichever of the three forms a file uses.
-/

namespace Relabel.Text

inductive Utf8Reason where
  | badStart | badContinuation | unexpectedEnd
deriving Repr, DecidableEq, Inhabited

def Utf8Reason.message : Utf8Reason → String
  | badStart => "invalid start byte"
  | badContinuation => "invalid continuation byte"
  | unexpectedEnd => "unexpected end of data"

/-- Bytes that are no character: the first of them, where it stands, and how many there are. -/
structure Utf8Fault where
  byte : UInt8
  position : Nat
  count : Nat
  reason : Utf8Reason
deriving Repr, DecidableEq, Inhabited

def Utf8Fault.message (fault : Utf8Fault) : String :=
  let bytes :=
    if fault.count = 1 then
      "byte 0x" ++ String.ofList (hex 2 fault.byte.toNat) ++ " in position " ++
        toString fault.position
    else
      "bytes in position " ++ toString fault.position ++ "-" ++
        toString (fault.position + fault.count - 1)
  "'utf-8' codec can't decode " ++ bytes ++ ": " ++ fault.reason.message

namespace Utf8

/-- How many bytes follow the first byte of a character, and the least and the greatest value of
the next one. -/
def shape? (byte : Nat) : Option (Nat × Nat × Nat) :=
  if byte < 0x80 then some (0, 0x80, 0xBF)
  else if byte < 0xC2 then none
  else if byte < 0xE0 then some (1, 0x80, 0xBF)
  else if byte = 0xE0 then some (2, 0xA0, 0xBF)
  else if byte = 0xED then some (2, 0x80, 0x9F)
  else if byte < 0xF0 then some (2, 0x80, 0xBF)
  else if byte = 0xF0 then some (3, 0x90, 0xBF)
  else if byte < 0xF4 then some (3, 0x80, 0xBF)
  else if byte = 0xF4 then some (3, 0x80, 0x8F)
  else none

/-- The part of the code point that the first byte holds. -/
def leadingBits (byte count : Nat) : Nat :=
  match count with
  | 0 => byte
  | 1 => byte - 0xC0
  | 2 => byte - 0xE0
  | _ => byte - 0xF0

/-- Reads the bytes still owed to a code point; a failure tells how many of them were right. -/
def continuation (low high : Nat) : (owed point : Nat) → List UInt8 →
    Except (Nat × Utf8Reason) Nat
  | 0, point, _ => .ok point
  | _ + 1, _, [] => .error (0, .unexpectedEnd)
  | owed + 1, point, byte :: rest =>
    if low ≤ byte.toNat ∧ byte.toNat ≤ high then
      (continuation 0x80 0xBF owed (point * 64 + (byte.toNat - 0x80)) rest).mapError
        fun (right, reason) ↦ (right + 1, reason)
    else .error (0, .badContinuation)

def decodeFrom (position : Nat) (bytes : List UInt8) : Except Utf8Fault (List Char) :=
  match bytes with
  | [] => .ok []
  | byte :: rest =>
    match shape? byte.toNat with
    | none => .error ⟨byte, position, 1, .badStart⟩
    | some (owed, low, high) =>
      match continuation low high owed (leadingBits byte.toNat owed) rest with
      | .error (right, reason) => .error ⟨byte, position, right + 1, reason⟩
      | .ok point => (Char.ofNat point :: ·) <$> decodeFrom (position + owed + 1) (rest.drop owed)
termination_by bytes.length
decreasing_by simp only [List.length_drop, List.length_cons]; omega

/-- The text that bytes stand for. -/
def decode (bytes : List UInt8) : Except Utf8Fault String :=
  String.ofList <$> decodeFrom 0 bytes

def encode (text : String) : List UInt8 :=
  text.toUTF8.toList

end Utf8

/-- Makes a line feed of each carriage return and of each pair of the two. -/
def unifyLineEnds : List Char → List Char
  | '\r' :: '\n' :: rest => '\n' :: unifyLineEnds rest
  | '\r' :: rest => '\n' :: unifyLineEnds rest
  | c :: rest => c :: unifyLineEnds rest
  | [] => []

/-- The text of a file. -/
def ofFile (bytes : List UInt8) : Except Utf8Fault String :=
  (fun text ↦ String.ofList (unifyLineEnds text.toList)) <$> Utf8.decode bytes

end Relabel.Text
