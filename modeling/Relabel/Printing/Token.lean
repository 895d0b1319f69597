import Relabel.Printing.Fault
import Relabel.Syntax.Node
import Relabel.Text.Quoted
import Relabel.Text.Word

/-!
# Printed tokens

The text of identifiers and literals, and how two pieces of text are put side by side.
-/

namespace Relabel.Printing

def isLineEnd (c : Char) : Bool :=
  c == '\n' || c == '\r' || c == '\u2028' || c == '\u2029'

def isBlank (c : Char) : Bool :=
  c == ' ' || c == '\t' || c == '\x0b' || c == '\x0c' || c == '\u00a0' || c == '\ufeff'

def endsLine (text : String) : Bool :=
  text.toList.getLast?.any isLineEnd

def hasLineEnd (text : String) : Bool :=
  text.toList.any isLineEnd

/-- Whether two characters side by side would be read as one token, or start a comment. -/
def runTogether (a b : Char) : Bool :=
  ((a == '+' || a == '-') && a == b) || (Text.isWordPart a && Text.isWordPart b) ||
    (a == '/' && b == 'i')

/-- Puts two pieces of text side by side, with a blank unless there is one or a piece is empty. -/
def join (left right : String) : String :=
  match left.toList.getLast?, right.toList.head? with
  | none, _ => right
  | _, none => left
  | some a, some b =>
    if !runTogether a b && (isBlank a || isLineEnd a || isBlank b || isLineEnd b) then left ++ right
    else left ++ " " ++ right

/-- The two code units by which a character beyond the basic plane is written. -/
def surrogates (c : Char) : Nat × Nat :=
  let n := c.toNat - 0x10000
  (0xD800 + n / 0x400, 0xDC00 + n % 0x400)

def upperHex (width n : Nat) : List Char :=
  (Text.hex width n).map Char.toUpper

/-- A character of a text literal in single quotes; `next` follows it. -/
def textChar (c : Char) (next : Option Char) : List Char :=
  if c == '\x27' || c == '\\' then ['\\', c]
  else if c == '\n' then ['\\', 'n']
  else if c == '\r' then ['\\', 'r']
  else if c == '\u2028' || c == '\u2029' then '\\' :: 'u' :: upperHex 4 c.toNat
  else if Text.isWordPart c || (0x20 ≤ c.toNat && c.toNat ≤ 0x7E) then [c]
  else if c == '\x08' then ['\\', 'b']
  else if c == '\x0c' then ['\\', 'f']
  else if c == '\t' then ['\\', 't']
  else if c == '\x0b' then ['\\', 'x', '0', 'b']
  else if c == '\x00' && !next.any Char.isDigit then ['\\', '0']
  else if c.toNat ≤ 0xFF then '\\' :: 'x' :: upperHex 2 c.toNat
  else if c.toNat < 0x10000 then '\\' :: 'u' :: upperHex 4 c.toNat
  else match Text.half? c with
    | some half => '\\' :: 'u' :: upperHex 4 half
    | none =>
      let (high, low) := surrogates c
      '\\' :: 'u' :: upperHex 4 high ++ '\\' :: 'u' :: upperHex 4 low

def textChars : List Char → List Char
  | [] => []
  | c :: rest => textChar c rest.head? ++ textChars rest

/-- A text literal. -/
def textLiteral (s : String) : String :=
  String.ofList ('\x27' :: textChars s.toList ++ ['\x27'])

/-- A whole number is written out if it is a floating-point number, and rounded to one if not. An
infinite number is written as one that is too large. -/
def numberLiteral : Number → Except PrintFault String
  | .integer n =>
    let nearest := Binary64.ofRatio (n < 0) n.natAbs 1
    match nearest with
    | .infinite _ => .error .numberTooLarge
    | .finite .. => .ok (if nearest.toInt? == some n then toString n else nearest.text)
  | .real (.infinite negative) => .ok (if negative then "-1e400" else "1e400")
  | .real (.finite negative mantissa exponent) =>
    if negative && mantissa = 0 then .ok "-0"
    else .ok (Binary64.finite negative mantissa exponent).text

def isNegative : Number → Bool
  | .integer n => n < 0
  | .real (.infinite negative) => negative
  | .real (.finite negative _ _) => negative

def regexFlagLetters : List Char := "dgimsuvy".toList

/-- Flags are known ones, none of them twice; two of them exclude each other. -/
def areRegexFlags (flags : List Char) : Bool :=
  flags.all regexFlagLetters.contains && flags.eraseDups.length == flags.length &&
    !(flags.contains 'u' && flags.contains 'v')

/-- A character of a pattern. Line ends are escaped, unless a backslash stands before them. -/
def patternChar (escaped : Bool) (c : Char) : List Char :=
  let letter (text : List Char) : List Char := if escaped then text else '\\' :: text
  if c == '\n' then letter ['n']
  else if c == '\r' then letter ['r']
  else if c == '\u2028' || c == '\u2029' then letter ('u' :: upperHex 4 c.toNat)
  else [c]

/-- The characters of a pattern. A slash outside of sets is escaped. -/
def patternChars (escaped inSet : Bool) : List Char → List Char
  | [] => []
  | c :: rest =>
    let text := patternChar escaped c
    if escaped then text ++ patternChars false inSet rest
    else if inSet then text ++ patternChars (c == '\\') (c != ']') rest
    else (if c == '/' then '\\' :: text else text) ++ patternChars (c == '\\') (c == '[') rest

/-- A regular expression. An empty pattern would start a comment. -/
def regexLiteral (pattern flags : String) : Except PrintFault String :=
  if areRegexFlags flags.toList then
    let body := if pattern.isEmpty then "(?:)"
      else String.ofList (patternChars false false pattern.toList)
    .ok ("/" ++ body ++ "/" ++ flags)
  else .error .badRegexFlags

def literal : Literal → Except PrintFault String
  | .null => .ok "null"
  | .boolean b => .ok (if b then "true" else "false")
  | .number n => numberLiteral n
  | .text s => .ok (textLiteral s)
  | .big digits => .ok (digits ++ "n")
  | .regex pattern flags => regexLiteral pattern flags

/-- A number before a point needs a blank, unless it has a point or an exponent of its own. -/
def needsBlankBeforePoint (text : String) : Bool :=
  let cs := text.toList
  !cs.any (fun c ↦ c == '.' || c == 'e' || c == 'E' || c == 'x' || c == 'X') &&
    cs.getLast?.any Char.isDigit && !(2 ≤ cs.length && cs.head? == some '0')

/-- The spelling of an identifier. -/
def name (n : Node) : Except PrintFault String :=
  match n.head.name with
  | some text => if Text.isWord text.toList then .ok text else .error .badName
  | none => .error .badName

end Relabel.Printing
