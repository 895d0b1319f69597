import Relabel.Data.Table
import Relabel.Number.Binary64
import Relabel.Text.Quoted

/-!
# Structured data

Values of nested lists and objects. Objects keep the order of their fields. A value is written over
several lines, each level indented by two blanks.
-/

namespace Relabel

inductive Json where
  | null
  | boolean (value : Bool)
  | number (value : Number)
  | text (value : String)
  | list (items : List Json)
  | object (fields : List (String × Json))
deriving Repr, Inhabited

namespace Json

def count (n : Nat) : Json :=
  number (.integer n)

def texts (items : List String) : Json :=
  list (items.map text)

/-- The value of a field of an object. -/
def field? (fields : List (String × Json)) (key : String) : Option Json :=
  (Table.mk fields).get? key

/-- Whether a value counts as given: nothing, zero and whatever is empty do not. -/
def isGiven : Json → Bool
  | null => false
  | boolean value => value
  | number value => !value.sameValue (.integer 0)
  | text value => !value.isEmpty
  | list items => !items.isEmpty
  | object fields => !fields.isEmpty

mutual

/-- Lays a value over another one: two objects are joined field by field, any other value takes
the place of what was there. -/
def overlay (base : Json) : Json → Json
  | object fields =>
    match base with
    | object old => object (overlayFields old fields)
    | _ => object fields
  | value => value

def overlayFields (old : List (String × Json)) : List (String × Json) → List (String × Json)
  | [] => old
  | (key, value) :: rest =>
    let value := match field? old key with
      | some before => overlay before value
      | none => value
    overlayFields (Table.setEntries key value old) rest

end

def escapeChar (c : Char) : List Char :=
  if c == '"' || c == '\\' then ['\\', c]
  else if c == '\n' then ['\\', 'n']
  else if c == '\r' then ['\\', 'r']
  else if c == '\t' then ['\\', 't']
  else if c == '\x0c' then ['\\', 'f']
  else if c == '\x08' then ['\\', 'b']
  else if c.toNat < 0x20 then '\\' :: 'u' :: Text.hex 4 c.toNat
  else [c]

/-- A text between double quotes, with control characters escaped. -/
def quoted (value : String) : String :=
  String.ofList ('"' :: value.toList.flatMap escapeChar ++ ['"'])

def lineBreak (depth : Nat) : String :=
  String.ofList ('\n' :: List.replicate (2 * depth) ' ')

mutual

/-- A value as it is written at a depth of nesting. -/
def write (depth : Nat) : Json → String
  | null => "null"
  | boolean true => "true"
  | boolean false => "false"
  | number value => value.text
  | text value => quoted value
  | list [] => "[]"
  | list items =>
    "[" ++ ",".intercalate (writeItems (depth + 1) items) ++ lineBreak depth ++ "]"
  | object [] => "\x7b\x7d"
  | object fields =>
    "\x7b" ++ ",".intercalate (writeFields (depth + 1) fields) ++ lineBreak depth ++ "\x7d"

def writeItems (depth : Nat) : List Json → List String
  | [] => []
  | item :: rest => (lineBreak depth ++ write depth item) :: writeItems depth rest

def writeFields (depth : Nat) : List (String × Json) → List String
  | [] => []
  | (key, value) :: rest =>
    (lineBreak depth ++ quoted key ++ ": " ++ write depth value) :: writeFields depth rest

end

def render (value : Json) : String :=
  value.write 0

end Json

end Relabel
