import Relabel.Source.Escape

/-!
# Texts and templates

A text ends at its quote and stays on its line, but for escaped line ends, which are left out. The
escapes of the two halves of a surrogate pair stay two. A template may hold line ends. Its parts are
read one at a time, between the expressions.
-/

namespace Relabel.Source

/-- The character a letter stands for after a backslash. -/
def letterEscape? : Char → Option Char
  | 'n' => some '\n'
  | 'r' => some '\r'
  | 't' => some '\t'
  | 'b' => some '\x08'
  | 'f' => some '\x0c'
  | 'v' => some '\x0b'
  | _ => none

/-- Reads a hexadecimal escape of two digits. -/
def twoDigitEscape : Scanning Char := do
  match ← hexDigits? 2 with
  | some code => return Text.ofCode code
  | none => complain .badHexEscape

/-- Reads an escape in a text, after the backslash; says also whether it is an octal one. -/
def textEscape : Scanning (List Char × Bool) := do
  let c ← next
  if isLineEnd c then
    startLine c
    return ([], false)
  else if c == 'u' then
    if (← ahead 0) == '\x7b' then
      skip 1
      return ([← bracedEscape], false)
    else match ← hexDigits? 4 with
      | some code => return ([Text.ofCode code], false)
      | none => complain .illegalToken
  else if c == 'x' then return ([← twoDigitEscape], false)
  else if c == '8' || c == '9' then complain .illegalToken
  else if isOctalDigit c then
    let (value, octal) ← octalEscape c
    return ([value], octal)
  else return ([(letterEscape? c).getD c], false)

/-- Reads a text up to its quote, collecting its characters in reverse; none if it has no end. -/
def textBody (quote : Char) : Nat → List Char → Bool → Scanning (Option (List Char × Bool))
  | 0, _, _ => return none
  | fuel + 1, cs, octal => do
    if ← atEnd then return none
    let c ← next
    if c == quote then return some (cs, octal)
    else if c == '\\' then
      let (value, isOctal) ← textEscape
      textBody quote fuel (value ++ cs) (octal || isOctal)
    else if isLineEnd c then return none
    else textBody quote fuel (c :: cs) octal

def textToken : Scanning Token := do
  let start := (← get).index
  let quote ← next
  match ← textBody quote ((← get).text.size + 2) [] false with
  | none =>
    modify fun s ↦ { s with index := start }
    complain .illegalToken
  | some (cs, octal) =>
    let s ← get
    let value := String.ofList cs.reverse
    return {
      type := .text, text := value, value := .text value, octal
      line := s.line, lineStart := s.lineStart, start, stop := s.index }

/-- Checks an escape in a template, after the backslash. -/
def templateEscape : Scanning Unit := do
  let c ← next
  if isLineEnd c then startLine c
  else if c == 'u' then
    if (← ahead 0) == '\x7b' then
      skip 1
      let _ ← bracedEscape
    else
      let place ← get
      if (← hexDigits? 4).isNone then set place
  else if c == 'x' then
    let _ ← twoDigitEscape
  else if c == '0' then
    if (← ahead 0).isDigit then complain .templateOctal
  else if isOctalDigit c then complain .templateOctal

/-- Reads a template's part up to its end; says whether the template ends there too. -/
def templateBody : Nat → Scanning Bool
  | 0 => complain .illegalToken
  | fuel + 1 => do
    if ← atEnd then complain .illegalToken
    let c ← next
    if c == '\x60' then return true
    else if c == '$' && (← ahead 0) == '\x7b' then
      skip 1
      modify fun s ↦ { s with braces := .template :: s.braces }
      return false
    else
      if c == '\\' then templateEscape
      else if isLineEnd c then startLine c
      templateBody fuel

/-- Reads a part of a template. A later part closes the brace of the expression before it. -/
def templateToken : Scanning Token := do
  let start := (← get).index
  let isHead := (← next) == '\x60'
  let isTail ← templateBody ((← get).text.size + 2)
  let s ← get
  unless isHead do set { s with braces := s.braces.drop 1 }
  let raw := s.slice (start + 1) (s.index - (if isTail then 1 else 2))
  return {
    type := .template, text := String.ofList raw, isHead, isTail
    line := s.line, lineStart := s.lineStart, start, stop := s.index }

end Relabel.Source
