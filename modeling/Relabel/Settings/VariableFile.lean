import Relabel.Data.Table
import Relabel.Text.Blank

/-!
# Files of variables

A file of variables has one assignment a line: a key, and after an equals sign its value, plain or
in quotes. A number sign starts a comment. The word `export` may stand before the key. A key
without an equals sign has no value, and a line that is no assignment is passed over. In a value,
a name in braces after a dollar sign stands for the value of that variable.
-/

namespace Relabel.VariableFile

open Text

/-- The rest of a text after the line that it starts in. -/
def skipLine (cs : List Char) : List Char :=
  (cs.dropWhile (!isLineBreak ·)).drop 1

def skipExport (cs : List Char) : List Char :=
  let word := "export".toList
  let rest := cs.drop word.length
  if word.isPrefixOf cs && rest.head?.any isInlineBlank then rest.dropWhile isInlineBlank else cs

/-- The characters up to a closing quote. A quote after a backslash closes only if no other quote
does, and then the last one. -/
def quotation? (mark : Char) (cs : List Char) : Option (List Char × List Char) :=
  let places := (List.range cs.length).filter fun i ↦ cs[i]? == some mark
  let isOpen (i : Nat) : Bool := i == 0 || cs[i - 1]? != some '\\'
  match (places.find? isOpen).or places.getLast? with
  | some i => some (cs.take i, cs.drop (i + 1))
  | none => none

/-- What an escape stands for between double quotes. -/
def escaped? (c : Char) : Option Char :=
  [('\\', '\\'), ('\x27', '\x27'), ('"', '"'), ('a', '\x07'), ('b', '\x08'), ('f', '\x0c'),
    ('n', '\n'), ('r', '\r'), ('t', '\t'), ('v', '\x0b')].lookup c

/-- Replaces the escapes that are known; other backslashes stay. -/
def unescape (known? : Char → Option Char) : List Char → List Char
  | '\\' :: c :: rest =>
    match known? c with
    | some d => d :: unescape known? rest
    | none => '\\' :: unescape known? (c :: rest)
  | c :: rest => c :: unescape known? rest
  | [] => []
termination_by cs => cs.length

/-- A key, or none if a comment stands in its place. -/
def key? (cs : List Char) : Option (Option String × List Char) :=
  match cs with
  | '#' :: _ => some (none, cs)
  | '\x27' :: rest =>
    let (key, after) := rest.span (· != '\x27')
    if key.isEmpty || after.isEmpty then none else some (some (String.ofList key), after.drop 1)
  | _ =>
    let (key, rest) := cs.span fun c ↦ c != '=' && c != '#' && !isBlank c
    if key.isEmpty then none else some (some (String.ofList key), rest)

/-- A plain value without the comment after it: a comment starts with a number sign that follows a
blank. -/
def dropComment : List Char → List Char
  | [] => []
  | c :: rest =>
    if isBlank c && (rest.dropWhile isBlank).head? == some '#' then [] else c :: dropComment rest

/-- The value after an equals sign and the blanks that follow it. -/
def value? (cs : List Char) : Option (List Char × List Char) :=
  match cs with
  | '\x27' :: rest =>
    (quotation? '\x27' rest).map fun (value, rest) ↦
      (unescape (fun c ↦ if c == '\\' || c == '\x27' then some c else none) value, rest)
  | '"' :: rest => (quotation? '"' rest).map fun (value, rest) ↦ (unescape escaped? value, rest)
  | _ =>
    let (line, rest) := cs.span (!isLineBreak ·)
    some (trimEnd (dropComment line), rest)

/-- A comment, and the end of the line. -/
def lineEnd? (cs : List Char) : Option (List Char) :=
  let afterBlanks := cs.dropWhile isInlineBlank
  let cs := match afterBlanks with
    | '#' :: _ => afterBlanks.dropWhile (!isLineBreak ·)
    | _ => afterBlanks
  match cs with
  | [] => some []
  | '\r' :: '\n' :: rest => some rest
  | c :: rest => if isLineBreak c then some rest else none

abbrev Entry := String × Option String

/-- The first assignment of a text, if its first line is one, and the rest of the text. -/
def entry (cs : List Char) : Option Entry × List Char :=
  let cs := skipExport (cs.dropWhile isBlank)
  match key? cs with
  | none => (none, skipLine cs)
  | some (key, cs) =>
    let cs := cs.dropWhile isInlineBlank
    let assigned? : Option (Option (List Char) × List Char) × List Char :=
      match cs with
      | '=' :: rest =>
        let rest := rest.dropWhile isInlineBlank
        ((value? rest).map fun (value, rest) ↦ (some value, rest), rest)
      | _ => (some (none, cs), cs)
    match assigned? with
    | (none, cs) => (none, skipLine cs)
    | (some (value, cs), _) =>
      match lineEnd? cs with
      | none => (none, skipLine cs)
      | some rest => (key.map fun key ↦ (key, value.map String.ofList), rest)

/-- The assignments of a text; no more of them than the fuel. -/
def entriesFrom : Nat → List Char → List Entry
  | 0, _ => []
  | _, [] => []
  | fuel + 1, cs =>
    let (found, rest) := entry cs
    found.toList ++ entriesFrom fuel rest

def entries (text : String) : List Entry :=
  entriesFrom text.length text.toList

/-- A reference after a dollar sign and a brace: the name, what to take if there is no such
variable, and the rest after the closing brace. -/
def reference? (cs : List Char) : Option (String × String × List Char) :=
  let (name, rest) := cs.span fun c ↦ c != '\x7d' && c != ':'
  match rest with
  | '\x7d' :: rest => some (String.ofList name, "", rest)
  | ':' :: '-' :: rest =>
    let (fallback, rest) := rest.span (· != '\x7d')
    match rest with
    | '\x7d' :: rest => some (String.ofList name, String.ofList fallback, rest)
    | _ => none
  | _ => none

/-- Replaces the references of a value; no more steps than the fuel. -/
def expandFrom (value? : String → Option (Option String)) : Nat → List Char → List Char
  | 0, cs => cs
  | _, [] => []
  | fuel + 1, c :: rest =>
    let found := match c, rest with
      | '$', '\x7b' :: after => reference? after
      | _, _ => none
    match found with
    | some (name, fallback, rest) =>
      let shown := match value? name with
        | some value => value.getD ""
        | none => fallback
      shown.toList ++ expandFrom value? fuel rest
    | none => c :: expandFrom value? fuel rest

def expand (value? : String → Option (Option String)) (value : String) : String :=
  String.ofList (expandFrom value? value.length value.toList)

/-- The variables of a file, in an environment. A reference means the file's own variable, if it
was assigned before, else the environment's. -/
def read (environment : List (String × String)) (text : String) : Table String (Option String) :=
  (entries text).foldl (fun table (key, value) ↦
    let lookup (name : String) : Option (Option String) :=
      (table.get? name).or ((environment.lookup name).map some)
    table.set key (value.map (expand lookup))) {}

end Relabel.VariableFile
