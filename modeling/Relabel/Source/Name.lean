import Relabel.Source.Escape

/-!
# Identifiers and keywords

A name is read character by character, and an escaped character has to be one that could stand
there itself. A keyword must not be written with escapes.
-/

namespace Relabel.Source

/-- Reads an escaped character of a name, after the backslash. -/
def nameEscape (allowed : Char → Bool) : Scanning Char := do
  if (← ahead 0) != 'u' then complain .illegalToken
  skip 1
  if (← ahead 0) == '\x7b' then
    skip 1
    bracedEscape
  else
    match ← hexDigits? 4 with
    | some code =>
      if code != '\\'.toNat && allowed (Text.ofCode code) then return Text.ofCode code
      complain .illegalToken
    | none => complain .illegalToken

/-- Reads the characters of a name after the first. -/
def nameTail : Nat → List Char → Scanning (List Char)
  | 0, cs => return cs.reverse
  | fuel + 1, cs => do
    let c ← ahead 0
    if (← atEnd) || !continuesName c then return cs.reverse
    skip 1
    let c ← if c == '\\' then nameEscape continuesName else pure c
    nameTail fuel (c :: cs)

def name : Scanning (List Char) := do
  let c ← next
  let c ← if c == '\\' then nameEscape startsName else pure c
  nameTail ((← get).text.size + 2) [c]

/-- What a word is. A single letter is always an identifier. -/
def wordType (word : String) : TokenType :=
  if keywords.contains word then .keyword
  else if word == "null" then .null
  else if word == "true" || word == "false" then .boolean
  else .identifier

def wordToken : Scanning Token := do
  let start := (← get).index
  let word := String.ofList (← name)
  let type := wordType word
  let s ← get
  if type != .identifier && start + word.length != s.index then
    set { s with index := start }
    complain .escapedKeyword
  return {
    type, text := word
    value := if type == .boolean then .boolean (word == "true") else .null
    line := s.line, lineStart := s.lineStart, start, stop := s.index }

end Relabel.Source
