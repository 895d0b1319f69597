import Relabel.Data.Json

/-!
# Reading structured data

The text of a value, with blanks wherever two marks meet. Of two fields with one key the later one
counts, at the place of the earlier one. Numbers that are no numbers are written `NaN` and
`Infinity`; they are read as infinite.
-/

namespace Relabel.Json

def isSpace (c : Char) : Bool :=
  c == ' ' || c == '\t' || c == '\n' || c == '\r'

def skipSpace (cs : List Char) : List Char :=
  cs.dropWhile isSpace

/-- The rest of a text after a word. -/
def word? (word : String) (cs : List Char) : Option (List Char) :=
  if word.toList.isPrefixOf cs then some (cs.drop word.length) else none

def digits (cs : List Char) : List Char × List Char :=
  cs.span Char.isDigit

def ofDigits (ds : List Char) : Nat :=
  ds.foldl (fun n c ↦ 10 * n + (c.toNat - '0'.toNat)) 0

/-- The whole part of a number: digits without a needless zero in front. -/
def wholePart? (cs : List Char) : Option (List Char × List Char) :=
  match cs with
  | '0' :: rest => some (['0'], rest)
  | _ =>
    let (whole, rest) := digits cs
    if whole.isEmpty then none else some (whole, rest)

/-- The digits after a point; a point without digits is not part of the number. -/
def fraction (cs : List Char) : List Char × List Char :=
  match cs with
  | '.' :: after =>
    let (part, rest) := digits after
    if part.isEmpty then ([], cs) else (part, rest)
  | _ => ([], cs)

/-- The exponent of a number; a mark without digits is not part of the number. -/
def exponent (cs : List Char) : Option Int × List Char :=
  match cs with
  | mark :: after =>
    if mark == 'e' || mark == 'E' then
      let (negative, unsigned) := match after with
        | '-' :: rest => (true, rest)
        | '+' :: rest => (false, rest)
        | _ => (false, after)
      let (part, rest) := digits unsigned
      if part.isEmpty then (none, cs)
      else (some (if negative then -(ofDigits part : Int) else ofDigits part), rest)
    else (none, cs)
  | [] => (none, cs)

def unsigned? (negative : Bool) (cs : List Char) : Option (Number × List Char) := do
  let (whole, rest) ← wholePart? cs
  let (part, rest) := fraction rest
  let (power, rest) := exponent rest
  if part.isEmpty && power.isNone then
    let n : Int := ofDigits whole
    return (.integer (if negative then -n else n), rest)
  else
    let decimal : Decimal := ⟨ofDigits (whole ++ part), power.getD 0 - part.length⟩
    return (.real (.ofDecimal negative decimal), rest)

def number? (cs : List Char) : Option (Number × List Char) :=
  match cs with
  | '-' :: rest =>
    match word? "Infinity" rest with
    | some rest => some (.real (.infinite true), rest)
    | none => unsigned? true rest
  | _ => unsigned? false cs

/-- The number that four hexadecimal digits stand for. -/
def codeUnit? : List Char → Option (Nat × List Char)
  | a :: b :: c :: d :: rest =>
    let value? (ch : Char) : Option Nat :=
      if ch.isDigit then some (ch.toNat - '0'.toNat)
      else if 'a' ≤ ch ∧ ch ≤ 'f' then some (ch.toNat - 'a'.toNat + 10)
      else if 'A' ≤ ch ∧ ch ≤ 'F' then some (ch.toNat - 'A'.toNat + 10)
      else none
    match value? a, value? b, value? c, value? d with
    | some a, some b, some c, some d => some (((a * 16 + b) * 16 + c) * 16 + d, rest)
    | _, _, _, _ => none
  | _ => none

/-- The character of a code unit. A first half of a pair is joined with the second half that
follows. -/
def codePoint (unit : Nat) (rest : List Char) : Char × List Char :=
  let second? : Option (Nat × List Char) :=
    if 0xD800 ≤ unit ∧ unit < 0xDC00 then
      match rest with
      | '\\' :: 'u' :: after => (codeUnit? after).filter fun low ↦
          0xDC00 ≤ low.1 && low.1 < 0xE000
      | _ => none
    else none
  match second? with
  | some (low, rest) => (Char.ofNat (0x10000 + (unit - 0xD800) * 0x400 + (low - 0xDC00)), rest)
  | none => (Text.ofCode unit, rest)

def escape? : List Char → Option (Char × List Char)
  | '"' :: rest => some ('"', rest)
  | '\\' :: rest => some ('\\', rest)
  | '/' :: rest => some ('/', rest)
  | 'b' :: rest => some ('\x08', rest)
  | 'f' :: rest => some ('\x0c', rest)
  | 'n' :: rest => some ('\n', rest)
  | 'r' :: rest => some ('\r', rest)
  | 't' :: rest => some ('\t', rest)
  | 'u' :: rest => (codeUnit? rest).map fun (unit, rest) ↦ codePoint unit rest
  | _ => none

/-- The characters of a text up to its closing quote; no more of them than the fuel. -/
def characters? : Nat → List Char → Option (List Char × List Char)
  | 0, _ => none
  | _ + 1, [] => none
  | fuel + 1, c :: rest =>
    if c == '"' then some ([], rest)
    else if c == '\\' then do
      let (c, rest) ← escape? rest
      let (cs, rest) ← characters? fuel rest
      return (c :: cs, rest)
    else if c.toNat < 0x20 then none
    else do
      let (cs, rest) ← characters? fuel rest
      return (c :: cs, rest)

def string? (fuel : Nat) (cs : List Char) : Option (String × List Char) :=
  (characters? fuel cs).map fun (cs, rest) ↦ (String.ofList cs, rest)

mutual

/-- A value at the start of a text. Every character takes up at most two units of the fuel. -/
def value? : Nat → List Char → Option (Json × List Char)
  | 0, _ => none
  | fuel + 1, cs =>
    match cs with
    | '"' :: rest => (string? fuel rest).map fun (s, rest) ↦ (text s, rest)
    | '[' :: rest =>
      match skipSpace rest with
      | ']' :: rest => some (list [], rest)
      | rest => (items? fuel rest).map fun (items, rest) ↦ (list items, rest)
    | '\x7b' :: rest =>
      match skipSpace rest with
      | '\x7d' :: rest => some (object [], rest)
      | rest => (fields? fuel [] rest).map fun (fields, rest) ↦ (object fields, rest)
    | _ =>
      match word? "null" cs, word? "true" cs, word? "false" cs with
      | some rest, _, _ => some (null, rest)
      | _, some rest, _ => some (boolean true, rest)
      | _, _, some rest => some (boolean false, rest)
      | _, _, _ =>
        match (word? "NaN" cs).or (word? "Infinity" cs) with
        | some rest => some (number (.real (.infinite false)), rest)
        | none => (number? cs).map fun (n, rest) ↦ (number n, rest)

/-- The items of a list, from the first one to the closing bracket. -/
def items? : Nat → List Char → Option (List Json × List Char)
  | 0, _ => none
  | fuel + 1, cs => do
    let (item, rest) ← value? fuel cs
    match skipSpace rest with
    | ',' :: rest =>
      let (items, rest) ← items? fuel (skipSpace rest)
      return (item :: items, rest)
    | ']' :: rest => return ([item], rest)
    | _ => none

/-- The fields of an object, from the first key to the closing brace. -/
def fields? : Nat → List (String × Json) → List Char → Option (List (String × Json) × List Char)
  | 0, _, _ => none
  | fuel + 1, done, cs => do
    let '"' :: rest := cs | none
    let (key, rest) ← string? fuel rest
    let ':' :: rest := skipSpace rest | none
    let (value, rest) ← value? fuel (skipSpace rest)
    let done := Table.setEntries key value done
    match skipSpace rest with
    | ',' :: rest => fields? fuel done (skipSpace rest)
    | '\x7d' :: rest => return (done, rest)
    | _ => none

end

/-- The value that a text stands for, if it is the text of one value. -/
def parse? (source : String) : Option Json :=
  let cs := skipSpace source.toList
  match value? (2 * cs.length + 2) cs with
  | some (value, rest) => if (skipSpace rest).isEmpty then some value else none
  | none => none

end Relabel.Json
