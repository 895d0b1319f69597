import Relabel.Text.Printable
import Relabel.Text.Surrogate

/-!
# Quoted text

The form in which messages show a text: in single quotes, or in double quotes if the text holds a
single quote and no double quote. The quote in use, the backslash, line feed, carriage return and
tab are escaped with a backslash; any other unprintable character is written by its number in two,
four or eight hexadecimal digits.
-/

namespace Relabel.Text

/-- The lowercase hexadecimal digits of a number, filled up with zeros to a width. -/
def hex (width n : Nat) : List Char :=
  let digits := Nat.toDigits 16 n
  List.replicate (width - digits.length) '0' ++ digits

def quoteMark (cs : List Char) : Char :=
  if cs.contains '\x27' && !cs.contains '"' then '"' else '\x27'

def quoteChar (mark c : Char) : List Char :=
  if c == mark || c == '\\' then ['\\', c]
  else if c == '\n' then ['\\', 'n']
  else if c == '\r' then ['\\', 'r']
  else if c == '\t' then ['\\', 't']
  else if isPrintable c then [c]
  else if c.toNat < 0x100 then '\\' :: 'x' :: hex 2 c.toNat
  else match half? c with
    | some half => '\\' :: 'u' :: hex 4 half
    | none =>
      if c.toNat < 0x10000 then '\\' :: 'u' :: hex 4 c.toNat else '\\' :: 'U' :: hex 8 c.toNat

def quote (s : String) : String :=
  let cs := s.toList
  let mark := quoteMark cs
  String.ofList (mark :: cs.flatMap (quoteChar mark) ++ [mark])

end Relabel.Text
