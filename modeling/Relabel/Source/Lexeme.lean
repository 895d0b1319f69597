import Relabel.Source.Name
import Relabel.Source.Numeral
import Relabel.Source.Quotation
import Relabel.Source.Regex

/-!
# The next token

A token is recognised by its first character. A slash is read as a mark; where an expression starts,
the reader of the program reads it again as a regular expression. A closing brace goes on with a
template if it closes an expression inside of one.
-/

namespace Relabel.Source

/-- The marks of more than one character, longest first. -/
def longMarks : List String :=
  [">>>=", "===", "!==", ">>>", "<<=", ">>=", "**=", "...", "&&", "||", "==", "!=", "+=", "-=",
    "*=", "/=", "++", "--", "<<", ">>", "&=", "|=", "^=", "%=", "<=", ">=", "=>", "**"]

def shortMarks : List Char :=
  "()\x7b\x7d.;,[]:?~<>=!+-*%&|^/".toList

/-- The mark that comes next. -/
def mark? : Scanning (Option String) := do
  for mark in longMarks do
    if ← followedBy mark then return some mark
  let c ← ahead 0
  return if shortMarks.contains c then some c.toString else none

def markToken : Scanning Token := do
  let start := (← get).index
  let some mark ← mark? | complain .illegalToken
  skip mark.length
  if mark == "\x7b" then modify fun s ↦ { s with braces := .block :: s.braces }
  if mark == "\x7d" then modify fun s ↦ { s with braces := s.braces.drop 1 }
  let s ← get
  return {
    type := .punctuator, text := mark, line := s.line, lineStart := s.lineStart
    start, stop := s.index }

def endToken : Scanning Token := do
  let s ← get
  return {
    type := .endOfText
    line := s.line
    lineStart := s.lineStart
    start := s.index
    stop := s.index }

/-- Reads the next token; white space and comments before it have been skipped. -/
def lexeme : Scanning Token := do
  if ← atEnd then endToken
  else
    let c ← ahead 0
    if startsName c then wordToken
    else if c == '\x27' || c == '"' then textToken
    else if c.isDigit || (c == '.' && (← ahead 1).isDigit) then numberToken
    else if c == '\x60' || (c == '\x7d' && (← get).braces.head? == some .template) then
      templateToken
    else markToken

end Relabel.Source
