import Relabel.Source.Pattern
import Relabel.Source.Token

/-!
# Regular expressions

A regular expression is taken as it is written, but its pattern has to be well-formed. Its flags
are any word, without escapes.
-/

namespace Relabel.Source

/-- Reads the body of a regular expression after its opening slash. Slashes inside a set do not
end it. -/
def regexBody : Nat → Bool → Scanning Unit
  | 0, _ => complain .unclosedRegex
  | fuel + 1, inSet => do
    if ← atEnd then complain .unclosedRegex
    let c ← next
    if c == '\\' then
      if isLineEnd (← next) then complain .unclosedRegex
      regexBody fuel inSet
    else if isLineEnd c then complain .unclosedRegex
    else if inSet then regexBody fuel (c != ']')
    else if c == '/' then return
    else regexBody fuel (c == '[')

/-- Reads the flags. An escape is read, and then refused. -/
def regexFlags : Scanning (List Char) := do
  let flags ← run Text.isIdentifierPart
  if !(← atEnd) && (← ahead 0) == '\\' then
    skip 1
    if (← ahead 0) == 'u' then
      skip 1
      let digits := ((← get).slice (← get).index ((← get).index + 4)).takeWhile isHexDigit
      if digits.length = 4 then skip 4
    complain .illegalToken
  return flags

def regexToken : Scanning Token := do
  let start := (← get).index
  skip 1
  regexBody ((← get).text.size + 2) false
  let body ← since (start + 1)
  let pattern := body.dropLast
  let flags ← regexFlags
  if !Pattern.isWellFormed pattern then complain .badRegex
  let s ← get
  return {
    type := .regex, value := .regex (String.ofList pattern) (String.ofList flags)
    line := s.line, lineStart := s.lineStart, start, stop := s.index }

end Relabel.Source
