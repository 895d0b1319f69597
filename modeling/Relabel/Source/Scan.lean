import Relabel.Source.Complaint
import Relabel.Text.Letter
import Relabel.Text.Surrogate

/-!
# Scanning a text

A scan is a place in a text together with what has to be remembered to go on from there. Past the
end of the text one reads null characters. Every repetition moves forward in the text, so the
number of its characters bounds the number of steps.
-/

namespace Relabel.Source

/-- What an open brace belongs to. -/
inductive Brace where
  | block
  /-- The brace of an expression inside a template. -/
  | template
deriving Repr, DecidableEq, Inhabited

structure Scan where
  text : Array Char
  index : Nat := 0
  line : Nat
  /-- The index at which the line starts. -/
  lineStart : Nat := 0
  /-- The open braces, innermost first. -/
  braces : List Brace := []
  isModule : Bool := false
deriving Repr, Inhabited

/-- The start of a text. An empty text has no first line. -/
def Scan.start (text : String) : Scan :=
  { text := text.toList.toArray, line := if text.isEmpty then 0 else 1 }

def Scan.column (s : Scan) : Int :=
  (s.index : Int) - s.lineStart

def isBlank (c : Char) : Bool :=
  c == ' ' || c == '\t' || c == '\x0b' || c == '\x0c' || c == '\u00a0' || c == '\u1680' ||
    c == '\u180e' || (0x2000 ≤ c.toNat && c.toNat ≤ 0x200A) || c == '\u202f' ||
    c == '\u205f' || c == '\u3000' || c == '\ufeff'

def isLineEnd (c : Char) : Bool :=
  c == '\n' || c == '\r' || c == '\u2028' || c == '\u2029'

def isOctalDigit (c : Char) : Bool :=
  '0' ≤ c && c ≤ '7'

def isHexDigit (c : Char) : Bool :=
  c.isDigit || ('a' ≤ c && c ≤ 'f') || ('A' ≤ c && c ≤ 'F')

/-- The value of a digit in a base up to sixteen. -/
def digitValue (c : Char) : Nat :=
  if c.isDigit then c.toNat - '0'.toNat
  else if 'a' ≤ c && c ≤ 'f' then c.toNat - 'a'.toNat + 10
  else c.toNat - 'A'.toNat + 10

def valueOf (base : Nat) (digits : List Char) : Nat :=
  digits.foldl (fun value digit ↦ value * base + digitValue digit) 0

/-- A backslash may start an identifier: it begins an escaped character. -/
def startsName (c : Char) : Bool :=
  c == '\\' || Text.isIdentifierStart c

def continuesName (c : Char) : Bool :=
  c == '\\' || Text.isIdentifierPart c

abbrev Scanning (α : Type) : Type := StateT Scan (Except ReadFault) α

def complain {α : Type} (complaint : Complaint) : Scanning α := do
  let s ← get
  throw (.refused ⟨complaint, s.line, s.column + 1⟩)

def atEnd : Scanning Bool := do
  let s ← get
  return s.text.size ≤ s.index

/-- The character some places ahead. -/
def ahead (offset : Nat) : Scanning Char := do
  let s ← get
  return s.text.getD (s.index + offset) '\x00'

def skip (count : Nat) : Scanning Unit :=
  modify fun s ↦ { s with index := s.index + count }

/-- Reads one character. -/
def next : Scanning Char := do
  let c ← ahead 0
  skip 1
  return c

/-- The text between two indices. -/
def Scan.slice (s : Scan) (first last : Nat) : List Char :=
  (s.text.extract first last).toList

/-- The text between an earlier index and the present one. -/
def since (first : Nat) : Scanning (List Char) := do
  let s ← get
  return s.slice first s.index

def followedBy (text : String) : Scanning Bool := do
  let s ← get
  return s.slice s.index (s.index + text.length) == text.toList

/-- Repeats a step as long as it asks for it. -/
def repeatFor (step : Scanning Bool) : Nat → Scanning Unit
  | 0 => return
  | fuel + 1 => do
    if ← step then repeatFor step fuel

def repeatWhile (step : Scanning Bool) : Scanning Unit := do
  repeatFor step ((← get).text.size + 2)

/-- Reads characters of a class. -/
def run (p : Char → Bool) : Scanning (List Char) := do
  let first := (← get).index
  repeatWhile do
    if (← atEnd) || !p (← ahead 0) then return false
    skip 1
    return true
  since first

/-- Completes a line end of which one character was read. -/
def startLine (c : Char) : Scanning Unit := do
  if c == '\r' && (← ahead 0) == '\n' then skip 1
  modify fun s ↦ { s with line := s.line + 1, lineStart := s.index }

/-- Skips the rest of a line. -/
def skipLine : Scanning Unit :=
  repeatWhile do
    if ← atEnd then return false
    let c ← next
    if isLineEnd c then
      startLine c
      return false
    return true

/-- Skips a comment up to its end mark, which has to be there. -/
def skipComment : Scanning Unit := do
  repeatWhile do
    if ← atEnd then complain .illegalToken
    else if ← followedBy "*/" then
      skip 2
      return false
    else
      let c ← next
      if isLineEnd c then startLine c
      return true

/-- Skips white space and comments. At the start of a line, or after a comment of one line, the
mark `-->` starts a comment too; in a script `<!--` does everywhere. -/
def skipBlanksFrom (lineIsFresh : Bool) : Nat → Scanning Unit
  | 0 => return
  | fuel + 1 => do
    if ← atEnd then return
    let c ← ahead 0
    if isBlank c then
      skip 1
      skipBlanksFrom lineIsFresh fuel
    else if isLineEnd c then
      skip 1
      startLine c
      skipBlanksFrom true fuel
    else if ← followedBy "//" then
      skipLine
      skipBlanksFrom true fuel
    else if ← followedBy "/*" then
      skip 2
      skipComment
      skipBlanksFrom lineIsFresh fuel
    else if lineIsFresh && (← followedBy "-->") then
      skipLine
      skipBlanksFrom lineIsFresh fuel
    else if !(← get).isModule && (← followedBy "<!--") then
      skipLine
      skipBlanksFrom lineIsFresh fuel

def skipBlanks : Scanning Unit := do
  let s ← get
  skipBlanksFrom (s.index == 0) (s.text.size + 2)

end Relabel.Source
