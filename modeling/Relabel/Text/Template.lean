import Relabel.Text.Quoted

/-!
# Templates

A template is a text with slots in braces that are filled with one named value. A doubled brace
stands for the brace itself. A slot names the value and may add a conversion after `!` (`s` as it
is, `r` quoted, `a` quoted in ASCII) and a layout after `:` (fill, alignment, width, precision);
the layout may hold slots of its own.
-/

namespace Relabel.Text

inductive TemplateError where
  /-- The slot names a value that is not there. -/
  | unknownName (name : String)
  /-- The slot asks for a value by position. -/
  | noPosition (index : Nat)
  | tooManyDigits
  | noMember (name : String)
  | emptyMember
  | unclosedIndex
  | afterIndex
  | indexOutOfRange
  | indexNotNumber
  | loneBrace (brace : Char)
  | unclosed
  | braceInName
  | conversionMissing
  | conversionTail
  | unknownConversion (c : Char)
  | unclosedLayout
  | tooDeep
  | missingPrecision
  | equalsAlignment
  | sign (c : Char)
  | zeroCoercion
  | alternateForm
  | grouping (c : Char)
  | unknownCode (c : Char)
  | invalidLayout (layout : String)
deriving Repr, DecidableEq

namespace TemplateError

def message : TemplateError → String
  | unknownName name => quote name
  | noPosition index => s!"Replacement index {index} out of range for positional args tuple"
  | tooManyDigits => "Too many decimal digits in format string"
  | noMember name => s!"'str' object has no attribute {quote name}"
  | emptyMember => "Empty attribute in format string"
  | unclosedIndex => "Missing ']' in format string"
  | afterIndex => "Only '.' or '[' may follow ']' in format field specifier"
  | indexOutOfRange => "string index out of range"
  | indexNotNumber => "string indices must be integers, not 'str'"
  | loneBrace brace => "Single '" ++ brace.toString ++ "' encountered in format string"
  | unclosed => "expected '\x7d' before end of string"
  | braceInName => "unexpected '\x7b' in field name"
  | conversionMissing => "end of string while looking for conversion specifier"
  | conversionTail => "expected ':' after conversion specifier"
  | unknownConversion c =>
    let shown :=
      if 32 < c.toNat && c.toNat < 127 then [c] else '\\' :: 'x' :: Nat.toDigits 16 c.toNat
    "Unknown conversion specifier " ++ String.ofList shown
  | unclosedLayout => "unmatched '\x7b' in format spec"
  | tooDeep => "Max string recursion exceeded"
  | missingPrecision => "Format specifier missing precision"
  | equalsAlignment => "'=' alignment not allowed in string format specifier"
  | sign c =>
    if c == ' ' then "Space not allowed in string format specifier"
    else "Sign not allowed in string format specifier"
  | zeroCoercion => "Negative zero coercion (z) not allowed in string format specifier"
  | alternateForm => "Alternate form (#) not allowed in string format specifier"
  | grouping c => "Cannot specify '" ++ c.toString ++ "' with 's'."
  | unknownCode c => "Unknown format code '" ++ c.toString ++ "' for object of type 'str'"
  | invalidLayout layout => s!"Invalid format specifier {quote layout} for object of type 'str'"

end TemplateError

namespace Template

/-- The longest number read in a template has this many digits. -/
def maxDigits : Nat := 18

def number? (digits : List Char) : Except TemplateError Nat :=
  if digits.length ≤ maxDigits then .ok (Nat.ofDigitChars 10 digits 0)
  else .error .tooManyDigits

structure Layout where
  fill : Char := ' '
  align : Char := '<'
  width : Nat := 0
  precision : Option Nat := none

def isAlign (c : Char) : Bool :=
  c == '<' || c == '>' || c == '^' || c == '='

/-- Reads the alignment, with a fill before it if there is one, and gives the rest. -/
def readAlign : List Char → Option (Option Char × Char) × List Char
  | fill :: align :: rest =>
    if isAlign align then (some (some fill, align), rest)
    else if isAlign fill then (some (none, fill), align :: rest)
    else (none, fill :: align :: rest)
  | [align] => if isAlign align then (some (none, align), []) else (none, [align])
  | [] => (none, [])

/-- Takes off a leading character. -/
def readMark (c : Char) : List Char → Bool × List Char
  | [] => (false, [])
  | d :: rest => if d == c then (true, rest) else (false, d :: rest)

def readDigits (cs : List Char) : Except TemplateError (Option Nat × List Char) := do
  let digits := cs.takeWhile Char.isDigit
  if digits.isEmpty then return (none, cs)
  return (some (← number? digits), cs.dropWhile Char.isDigit)

def readPrecision (cs : List Char) : Except TemplateError (Option Nat × List Char) :=
  match cs with
  | '.' :: rest => do
    let (precision, rest) ← readDigits rest
    if precision.isNone then throw .missingPrecision
    return (precision, rest)
  | _ => .ok (none, cs)

/-- Reads a layout, in the order alignment, sign, `z`, `#`, `0`, width, grouping, precision and
code. -/
def readLayout (text : List Char) : Except TemplateError Layout := do
  let (align, cs) := readAlign text
  let (signMark, cs) := match cs with
    | c :: rest => if c == '+' || c == '-' || c == ' ' then (some c, rest) else (none, cs)
    | [] => (none, cs)
  let (zero, cs) := readMark 'z' cs
  let (alternate, cs) := readMark '#' cs
  let fill? := align.bind (·.1)
  let (padded, cs) := if fill?.isNone then readMark '0' cs else (false, cs)
  let (width, cs) ← readDigits cs
  let (group, cs) := match cs with
    | c :: rest => if c == ',' || c == '_' then (some c, rest) else (none, cs)
    | [] => (none, cs)
  let (precision, cs) ← readPrecision cs
  if cs.length > 1 then throw (.invalidLayout (String.ofList text))
  if let some c := cs.head? then
    if c != 's' then throw (.unknownCode c)
  if let some c := group then throw (.grouping c)
  if let some c := signMark then throw (.sign c)
  if zero then throw .zeroCoercion
  if alternate then throw .alternateForm
  if let some (_, '=') := align then throw .equalsAlignment
  return {
    fill := fill?.getD (if padded then '0' else ' ')
    align := (align.map (·.2)).getD '<'
    width := width.getD 0
    precision }

def Layout.apply (layout : Layout) (value : List Char) : List Char :=
  let shown := match layout.precision with
    | some n => value.take n
    | none => value
  let gap := layout.width - shown.length
  let before :=
    if layout.align == '>' then gap else if layout.align == '^' then gap / 2 else 0
  List.replicate before layout.fill ++ shown ++ List.replicate (gap - before) layout.fill

/-- The length of a slot's name and the character that ends it; brackets hide such characters. -/
def scanName : Bool → List Char → Nat × Option Char
  | _, [] => (0, none)
  | true, c :: rest =>
    let (n, stop) := scanName (c != ']') rest
    (n + 1, stop)
  | false, c :: rest =>
    if c == '\x7b' || c == '\x7d' || c == ':' || c == '!' then (0, some c)
    else
      let (n, stop) := scanName (c == '[') rest
      (n + 1, stop)

/-- The length of a layout that ends at the brace closing its slot. -/
def scanLayout : Nat → List Char → Option Nat
  | _, [] => none
  | depth, c :: rest =>
    if c == '\x7d' then
      match depth with
      | 0 => some 0
      | depth + 1 => (scanLayout depth rest).map (· + 1)
    else if c == '\x7b' then (scanLayout (depth + 1) rest).map (· + 1)
    else (scanLayout depth rest).map (· + 1)

structure Slot where
  name : List Char
  conversion : Option Char := none
  layout : List Char := []
  /-- How many characters the slot takes after its opening brace. -/
  size : Nat

def readLayoutPart (name : List Char) (conversion : Option Char) (before : Nat)
    (cs : List Char) : Except TemplateError Slot :=
  match scanLayout 0 cs with
  | some n => .ok { name, conversion, layout := cs.take n, size := before + n + 1 }
  | none => .error .unclosedLayout

/-- Reads the slot after an opening brace. -/
def readSlot (cs : List Char) : Except TemplateError Slot :=
  let (n, stop) := scanName false cs
  let name := cs.take n
  let rest := cs.drop (n + 1)
  match stop with
  | none => .error .unclosed
  | some '\x7b' => .error .braceInName
  | some '!' =>
    match rest with
    | [] => .error .conversionMissing
    | [c] => readLayoutPart name (some c) (n + 2) []
    | c :: '\x7d' :: _ => .ok { name, conversion := some c, size := n + 3 }
    | c :: ':' :: rest => readLayoutPart name (some c) (n + 3) rest
    | _ => .error .conversionTail
  | some ':' => readLayoutPart name none (n + 1) rest
  | some _ => .ok { name, size := n + 1 }

def convert (value : List Char) : Option Char → Except TemplateError (List Char)
  | none => .ok value
  | some 's' => .ok value
  | some 'r' => .ok (quote (String.ofList value)).toList
  | some 'a' => .ok ((quote (String.ofList value)).toList.flatMap fun c ↦
      if c.toNat < 0x80 then [c]
      else if c.toNat < 0x100 then '\\' :: 'x' :: hex 2 c.toNat
      else if c.toNat < 0x10000 then '\\' :: 'u' :: hex 4 c.toNat
      else '\\' :: 'U' :: hex 8 c.toNat)
  | some c => .error (.unknownConversion c)

/-- A part of the value: its members by name are unknown, its characters are numbered. -/
def member (value : List Char) : List Char → Except TemplateError (List Char)
  | [] => .ok value
  | '.' :: name =>
    if name.isEmpty then .error .emptyMember else .error (.noMember (String.ofList name))
  | '[' :: rest =>
    let index := rest.takeWhile (· != ']')
    if index.length = rest.length then .error .unclosedIndex
    else if index.isEmpty then .error .emptyMember
    else if index.all Char.isDigit then do
      let i ← number? index
      let some c := value[i]? | throw .indexOutOfRange
      if (rest.drop (index.length + 1)).isEmpty then return [c] else throw .afterIndex
    else .error .indexNotNumber
  | _ => .error .afterIndex

/-- The value a slot's name stands for. -/
def evaluate (name : String) (value slotName : List Char) : Except TemplateError (List Char) := do
  let first := slotName.takeWhile (fun c ↦ c != '.' && c != '[')
  if first.all Char.isDigit then throw (.noPosition (← number? first))
  if String.ofList first != name then throw (.unknownName (String.ofList first))
  member value (slotName.drop first.length)

/-- Fills a template, with the slots inside the layout of a slot filled by `nested`. -/
def fillWith (name : String) (value : List Char)
    (nested : List Char → Except TemplateError (List Char)) (cs : List Char) :
    Except TemplateError (List Char) :=
  match cs with
  | [] => .ok []
  | c :: rest =>
    if c == '\x7b' || c == '\x7d' then
      match rest with
      | [] => .error (.loneBrace c)
      | d :: after =>
        if d == c then (c :: ·) <$> fillWith name value nested after
        else if c == '\x7d' then .error (.loneBrace c)
        else do
          let slot ← readSlot (d :: after)
          let found ← evaluate name value slot.name
          let converted ← convert found slot.conversion
          let layout ←
            if slot.layout.contains '\x7b' then nested slot.layout else .ok slot.layout
          let shown := (← readLayout layout).apply converted
          (shown ++ ·) <$> fillWith name value nested ((d :: after).drop slot.size)
    else (c :: ·) <$> fillWith name value nested rest
termination_by cs.length

/-- Fills a template, whose layouts may nest to a depth. -/
def fillChars (name : String) (value : List Char) :
    Nat → List Char → Except TemplateError (List Char)
  | 0, _ => .error .tooDeep
  | depth + 1, cs => fillWith name value (fillChars name value depth) cs

/-- Fills the slots of a template that name the value; any other slot is an error. -/
def fill (name value template : String) : Except TemplateError String :=
  String.ofList <$> fillChars name value.toList 2 template.toList

end Template

end Relabel.Text
