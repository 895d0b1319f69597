import Relabel.Source.Token

/-!
# Escaped characters

Escapes by number in identifiers, texts and templates. Each is read after its introducing letter.
-/

namespace Relabel.Source

/-- Reads exactly so many hexadecimal digits. -/
def hexDigits? (count : Nat) : Scanning (Option Nat) := do
  let s ← get
  let digits := (s.slice s.index (s.index + count)).takeWhile isHexDigit
  skip digits.length
  return if digits.length = count then some (valueOf 16 digits) else none

/-- Reads the digits of an escape in braces and the closing brace. -/
def bracedEscape : Scanning Char := do
  if (← ahead 0) == '\x7d' then complain .illegalToken
  let digits ← run isHexDigit
  let closing ← if ← atEnd then pure '\x00' else next
  let code := valueOf 16 digits
  if closing != '\x7d' || 0x10FFFF < code then complain .illegalToken
  return Text.ofCode code

/-- Reads the rest of an octal escape of up to three digits; says also whether it is more than
the null character's escape. -/
def octalEscape (first : Char) : Scanning (Char × Bool) := do
  if isOctalDigit (← ahead 0) then
    let second ← next
    if first ≤ '3' && isOctalDigit (← ahead 0) then
      let third ← next
      return (Text.ofCode (valueOf 8 [first, second, third]), true)
    return (Text.ofCode (valueOf 8 [first, second]), true)
  return (Text.ofCode (valueOf 8 [first]), first != '0')

end Relabel.Source
