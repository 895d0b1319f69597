import Relabel.Source.Token

/-!
# Numerals

Whole numbers in the bases two, eight and sixteen keep all their digits. A decimal is read as the
nearest floating-point number, which counts as a whole number if it is one.
-/

namespace Relabel.Source

/-- What follows a numeral directly must not be a name. -/
def endNumeral (forbidden : Char → Bool) : Scanning Unit := do
  if forbidden (← ahead 0) then complain .illegalToken

/-- Reads the digits of a numeral in a base other than ten; there has to be one. -/
def basedNumeral (base : Nat) (isDigit forbidden : Char → Bool) : Scanning Number := do
  let digits ← run isDigit
  if digits.isEmpty then complain .illegalToken
  endNumeral forbidden
  return .integer (valueOf base digits)

/-- After a binary or octal numeral a decimal digit is as wrong as a name. -/
def extendsNumeral (c : Char) : Bool :=
  startsName c || c.isDigit

/-- Whether digits that start with zero make an octal numeral: no eight or nine is among them. -/
def isImplicitOctal : Scanning Bool := do
  let s ← get
  let rest := (s.slice s.index s.text.size).dropWhile isOctalDigit
  return rest.head?.all fun c ↦ c != '8' && c != '9'

/-- Reads the exponent of a decimal, if there is one. -/
def exponent : Scanning Int := do
  let mark ← ahead 0
  if mark == 'e' || mark == 'E' then
    skip 1
    let sign ← ahead 0
    if sign == '+' || sign == '-' then skip 1
    let digits ← run Char.isDigit
    if digits.isEmpty then complain .illegalToken
    let value : Int := valueOf 10 digits
    return if sign == '-' then -value else value
  else return 0

def decimal : Scanning Number := do
  let whole ← run Char.isDigit
  let fraction ← if (← ahead 0) == '.' then
      skip 1
      run Char.isDigit
    else pure []
  let power ← exponent
  endNumeral startsName
  let value : Decimal := ⟨valueOf 10 (whole ++ fraction), power - fraction.length⟩
  return .ofBinary64 (.ofDecimal false value)

/-- Reads a numeral; says also whether it is written as an octal one with a bare zero. -/
def numeral : Scanning (Number × Bool) := do
  if (← ahead 0) == '0' then
    let mark := (← ahead 1).toLower
    if mark == 'x' then
      skip 2
      return (← basedNumeral 16 isHexDigit startsName, false)
    else if mark == 'b' then
      skip 2
      return (← basedNumeral 2 (fun c ↦ c == '0' || c == '1') extendsNumeral, false)
    else if mark == 'o' then
      skip 2
      return (← basedNumeral 8 isOctalDigit extendsNumeral, false)
    else if isOctalDigit mark && (← isImplicitOctal) then
      return (← basedNumeral 8 isOctalDigit extendsNumeral, true)
  return (← decimal, false)

def numberToken : Scanning Token := do
  let start := (← get).index
  let (value, octal) ← numeral
  let s ← get
  return {
    type := .number, text := value.text, value := .number value, octal
    line := s.line, lineStart := s.lineStart, start, stop := s.index }

end Relabel.Source
