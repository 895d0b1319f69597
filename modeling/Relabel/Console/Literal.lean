import Relabel.Source.Scan
import Relabel.Text.Digit

/-!
# Literals

Values that are written down as they are: numbers, a number plus or minus an imaginary one, texts,
bytes, truth values, and tuples, sets and tables of values. What is in a set or a key of a table has
to be hashable, which sets and tables are not. A character that is written by its Unicode name is
taken to exist.
-/

namespace Relabel.Console.Literal

open Source (isHexDigit isOctalDigit valueOf)

inductive Lexeme where
  | number (imaginary : Bool)
  | text (isBytes : Bool)
  | word (name : String)
  /-- A bracket, comma, colon or sign, or a line feed for the end. -/
  | mark (c : Char)
deriving Repr, DecidableEq

/-- A character of a name. No name with a letter beyond ASCII is a value. -/
def isNameChar (c : Char) : Bool :=
  c.isAlphanum || c == '_' || 0x80 ≤ c.toNat

/-- One digit or more, with single underscores between them: the digits and the rest of the text. -/
def digits? (isDigit : Char → Bool) (cs : List Char) : Option (List Char × List Char) :=
  let run := cs.takeWhile fun c ↦ isDigit c || c == '_'
  if (run.splitOn '_').all (!·.isEmpty) then some (run.filter (· != '_'), cs.drop run.length)
  else none

/-- Digits that may be missing. -/
def someDigits? (cs : List Char) : Option (List Char × List Char) :=
  if cs.head?.any Char.isDigit then digits? Char.isDigit cs else some ([], cs)

/-- The exponent of a number, if there is one: whether there is, and the rest of the text. -/
def exponent? (cs : List Char) : Option (Bool × List Char) :=
  match cs with
  | [] => some (false, [])
  | mark :: rest =>
    if mark == 'e' || mark == 'E' then
      let unsigned := if rest.head?.any fun c ↦ c == '+' || c == '-' then rest.drop 1 else rest
      (digits? Char.isDigit unsigned).map (true, ·.2)
    else some (false, cs)

/-- A number in base ten. After a zero at its start a whole number has zeros only. -/
def decimal? (cs : List Char) : Option (Lexeme × List Char) := do
  let (whole, rest) ← someDigits? cs
  let hasPoint := rest.head? == some '.'
  let (fraction, rest) ← if hasPoint then someDigits? (rest.drop 1) else some ([], rest)
  let (hasExponent, rest) ← exponent? rest
  let imaginary := rest.head?.any fun c ↦ c == 'j' || c == 'J'
  let isPlain := if whole.head? == some '0' then whole.all (· == '0')
    else whole.length ≤ Text.digitLimit
  guard (!(whole ++ fraction).isEmpty)
  guard (hasPoint || hasExponent || imaginary || isPlain)
  return (.number imaginary, if imaginary then rest.drop 1 else rest)

/-- A whole number in another base. An underscore may stand before its digits. -/
def based? (isDigit : Char → Bool) (cs : List Char) : Option (Lexeme × List Char) :=
  (digits? isDigit (if cs.head? == some '_' then cs.drop 1 else cs)).map (.number false, ·.2)

/-- A number, which no name may follow. -/
def number? (cs : List Char) : Option (Lexeme × List Char) := do
  let (lexeme, rest) ← match (cs.take 2).map Char.toLower with
    | ['0', 'x'] => based? isHexDigit (cs.drop 2)
    | ['0', 'o'] => based? isOctalDigit (cs.drop 2)
    | ['0', 'b'] => based? (fun c ↦ c == '0' || c == '1') (cs.drop 2)
    | _ => decimal? cs
  guard (!rest.head?.any isNameChar)
  return (lexeme, rest)

/-- What stands before the closing quotes of a text, and what comes after them. -/
def quoted? (quotes : List Char) : List Char → Option (List Char × List Char)
  | [] => none
  | '\\' :: c :: rest =>
    (quoted? quotes rest).map fun (content, after) ↦ ('\\' :: c :: content, after)
  | c :: rest =>
    if quotes.isPrefixOf (c :: rest) then some ([], rest.drop (quotes.length - 1))
    else if c == '\n' && quotes.length == 1 then none
    else (quoted? quotes rest).map fun (content, after) ↦ (c :: content, after)

/-- Whether a text starts with so many hexadecimal digits, for a number up to a bound. -/
def startsWithCode (count bound : Nat) (cs : List Char) : Bool :=
  let code := cs.take count
  code.length == count && code.all isHexDigit && valueOf 16 code ≤ bound

/-- Whether a text starts with the name of a character, in braces. -/
def startsWithName (cs : List Char) : Bool :=
  let name := (cs.drop 1).takeWhile (· != '\x7d')
  cs.head? == some '\x7b' && !name.isEmpty && (cs.drop (name.length + 1)).head? == some '\x7d' &&
    name.all fun c ↦ c.isAlphanum || c == ' ' || c == '-'

/-- Whether the escapes of a text are complete. Those of letters beyond ASCII mean nothing among
bytes. -/
def hasEscapes (isBytes : Bool) : List Char → Bool
  | [] => true
  | '\\' :: c :: rest =>
    (if c == 'x' then startsWithCode 2 0xFF rest
      else if isBytes then true
      else if c == 'u' then startsWithCode 4 0xFFFF rest
      else if c == 'U' then startsWithCode 8 0x10FFFF rest
      else c != 'N' || startsWithName rest) && hasEscapes isBytes rest
  | _ :: rest => hasEscapes isBytes rest

/-- A text after its prefix, which says whether it is bytes and whether its escapes count. -/
def text? (start : String) (cs : List Char) : Option (Lexeme × List Char) := do
  guard (["", "r", "u", "b", "br", "rb"].contains start)
  let isBytes := start.contains 'b'
  let quote ← cs.head?
  let isLong := cs.take 3 == [quote, quote, quote]
  let quotes := if isLong then [quote, quote, quote] else [quote]
  let (content, rest) ← quoted? quotes (cs.drop quotes.length)
  guard (!isBytes || content.all (·.toNat < 0x80))
  guard (start.contains 'r' || hasEscapes isBytes content)
  return (.text isBytes, rest)

/-- A name, or a text of which it is the prefix. -/
def name? (cs : List Char) : Option (Lexeme × List Char) :=
  let name := cs.takeWhile isNameChar
  let rest := cs.drop name.length
  if rest.head?.any fun c ↦ c == '\x27' || c == '"' then
    text? (String.ofList (name.map Char.toLower)) rest
  else some (.word (String.ofList name), rest)

/-- How deep brackets may stand in each other. -/
def depthLimit : Nat := 200

def isSpace (c : Char) : Bool :=
  c == ' ' || c == '\t' || c == '\x0c'

/-- Whether a line that is not empty, or the end of the text, comes after blanks. -/
def isIndented (cs : List Char) : Bool :=
  let rest := cs.dropWhile fun c ↦ c == ' ' || c == '\t'
  rest.length < cs.length && rest.head?.all fun c ↦ c != '\n' && c != '#'

/-- The lexemes of a text. Outside of brackets a line feed ends the value; before and after it there
may be empty lines and comments. -/
def lexemesFor : Nat → Nat → Bool → List Char → Option (List Lexeme)
  | 0, _, _, _ => none
  | _ + 1, _, _, [] => some [.mark '\n']
  | fuel + 1, depth, hasStarted, c :: rest =>
    if isSpace c then lexemesFor fuel depth hasStarted rest
    else if c == '#' then lexemesFor fuel depth hasStarted (rest.dropWhile (· != '\n'))
    else if c == '\\' then
      match rest with
      | '\n' :: next :: rest =>
        if !hasStarted && isIndented (next :: rest) then none
        else lexemesFor fuel depth hasStarted (next :: rest)
      | _ => none
    else if c == '\n' then
      if depth = 0 && isIndented rest then none
      else if depth = 0 && hasStarted then (Lexeme.mark '\n' :: ·) <$> lexemesFor fuel 0 false rest
      else lexemesFor fuel depth hasStarted rest
    else if c == '(' || c == '\x7b' then do
      guard (depth < depthLimit)
      (Lexeme.mark c :: ·) <$> lexemesFor fuel (depth + 1) true rest
    else if c == ')' || c == '\x7d' then
      (Lexeme.mark c :: ·) <$> lexemesFor fuel (depth - 1) true rest
    else if [',', ':', '+', '-'].contains c then
      (Lexeme.mark c :: ·) <$> lexemesFor fuel depth true rest
    else do
      let (lexeme, rest) ←
        if "...".toList.isPrefixOf (c :: rest) then some (.word "...", rest.drop 2)
        else if c.isDigit || c == '.' then number? (c :: rest)
        else if c == '\x27' || c == '"' then text? "" (c :: rest)
        else if isNameChar c then name? (c :: rest)
        else none
      (lexeme :: ·) <$> lexemesFor fuel depth true rest

/-! ## Values -/

inductive Value where
  /-- A number as it is written. -/
  | number (imaginary : Bool)
  /-- A number with a sign. -/
  | signed (imaginary : Bool)
  | other (isHashable : Bool)
  /-- The word that makes an empty set when it is called; it is no value itself. -/
  | setMaker
deriving Repr, DecidableEq

namespace Value

def isHashable : Value → Bool
  | number _ | signed _ => true
  | other isHashable => isHashable
  | setMaker => false

end Value

abbrev Reading (α : Type) : Type := StateT (List Lexeme) Option α

def take : Reading Lexeme := fun lexemes ↦
  match lexemes with
  | lexeme :: rest => some (lexeme, rest)
  | [] => none

/-- Takes a mark if it comes next. -/
def accept (c : Char) : Reading Bool := fun lexemes ↦
  if lexemes.head? == some (.mark c) then some (true, lexemes.drop 1) else some (false, lexemes)

def expect (c : Char) : Reading Unit := do
  guard (← accept c)

def acceptSign : Reading Bool := do
  if ← accept '+' then return true else accept '-'

/-- Texts that stand side by side are one text. -/
def skipTexts (isBytes : Bool) : Reading Unit :=
  modify fun lexemes ↦ lexemes.dropWhile (· == .text isBytes)

/-- An empty set, if its maker is called. -/
def called (v : Value) : Reading Value := do
  if v == .setMaker then
    if ← accept '(' then
      expect ')'
      return .other false
  return v

mutual

/-- A value between commas: a number with a sign, a sum, or one that stands for itself. -/
def value : Nat → Reading Value
  | 0 => failure
  | fuel + 1 => do
    let isSigned ← acceptSign
    let first ← primary fuel
    let first ← match isSigned, first with
      | true, .number imaginary => pure (.signed imaginary)
      | true, _ => failure
      | false, first => pure first
    if first == .number false || first == .signed false then
      if ← acceptSign then
        guard ((← primary fuel) == .number true)
        return .other true
    return first

def primary : Nat → Reading Value
  | 0 => failure
  | fuel + 1 => do
    match ← take with
    | .number imaginary => return .number imaginary
    | .text isBytes =>
      skipTexts isBytes
      return .other true
    | .word "set" => called .setMaker
    | .word name =>
      guard (["None", "True", "False", "..."].contains name)
      return .other true
    | .mark '(' =>
      match ← listed fuel ')' with
      | ([only], false) => called only
      | (values, _) =>
        guard (values.all (· != .setMaker))
        return .other (values.all Value.isHashable)
    | .mark '\x7b' => braces fuel
    | _ => failure

/-- Values between commas up to a closing mark; says also whether there is a comma. -/
def listed : Nat → Char → Reading (List Value × Bool)
  | 0, _ => failure
  | fuel + 1, closing => do
    if ← accept closing then return ([], false)
    let first ← value fuel
    if ← accept closing then return ([first], false)
    expect ','
    let (rest, _) ← listed fuel closing
    return (first :: rest, true)

/-- A set or a table, without its opening brace. -/
def braces : Nat → Reading Value
  | 0 => failure
  | fuel + 1 => do
    if ← accept '\x7d' then return .other false
    let first ← value fuel
    guard first.isHashable
    if ← accept ':' then entries fuel
    else if !(← accept '\x7d') then
      expect ','
      guard ((← listed fuel '\x7d').1.all Value.isHashable)
    return .other false

/-- The entries of a table after the first key and its colon. -/
def entries : Nat → Reading Unit
  | 0 => failure
  | fuel + 1 => do
    guard ((← value fuel) != .setMaker)
    if ← accept '\x7d' then return
    expect ','
    if ← accept '\x7d' then return
    guard (← value fuel).isHashable
    expect ':'
    entries fuel

end

/-- A value, or several between commas, and nothing after it. -/
def whole (fuel : Nat) : Reading Unit := do
  let (values, _) ← listed fuel '\n'
  guard (!values.isEmpty && values.all (· != .setMaker))
  guard ((← get).all (· == .mark '\n'))

/-- Line ends are line feeds, whatever they are written as. -/
def unifyLines : List Char → List Char
  | '\r' :: '\n' :: rest => '\n' :: unifyLines rest
  | '\r' :: rest => '\n' :: unifyLines rest
  | c :: rest => c :: unifyLines rest
  | [] => []

/-- Whether a text is a literal. -/
def isLiteral (cs : List Char) : Bool :=
  let isEncodable := cs.all fun c ↦ c != '\x00' && (Text.half? c).isNone
  let lexemes := lexemesFor (cs.length + 1) 0 false (unifyLines cs)
  isEncodable && (lexemes.bind fun lexemes ↦
    (whole (2 * lexemes.length + 2)).run lexemes).isSome

end Relabel.Console.Literal
