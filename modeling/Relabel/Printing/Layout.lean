import Relabel.Printing.Token
import Relabel.Syntax.Walk

/-!
# Layout

Printing gives text that depends on the depth of indentation. How an expression is printed depends
also on the level of binding that its place asks for, and on what the place allows without
parentheses.
-/

namespace Relabel.Printing

/-- Text that depends on the depth of indentation, or a reason why there is none. -/
abbrev Print (α : Type) : Type := ReaderT Nat (Except PrintFault) α

/-- The blanks at the start of a line. -/
def base : Print String := do
  return String.ofList (List.replicate (4 * (← read)) ' ')

def indented {α : Type} (p : Print α) : Print α :=
  fun depth ↦ p (depth + 1)

/-- A new line with its indentation. -/
def newLine : Print String := do
  return "\n" ++ (← base)

namespace Level

def sequence : Nat := 0
def assignment : Nat := 1
def conditional : Nat := 2
def coalesce : Nat := 3
def exponentiation : Nat := 14
def unary : Nat := 15
def update : Nat := 16
def chain : Nat := 17
def call : Nat := 18
def new : Nat := 19
def taggedTemplate : Nat := 20
def member : Nat := 21
def primary : Nat := 22

/-- The level at which a binary operator binds. -/
def ofOperator? : String → Option Nat
  | "??" => some 3
  | "||" => some 4
  | "&&" => some 5
  | "|" => some 6
  | "^" => some 7
  | "&" => some 8
  | "==" | "!=" | "===" | "!==" => some 9
  | "<" | ">" | "<=" | ">=" | "in" | "instanceof" => some 10
  | "<<" | ">>" | ">>>" => some 11
  | "+" | "-" => some 12
  | "*" | "%" | "/" => some 13
  | "**" => some 14
  | _ => none

end Level

/-- What the place of an expression asks for and allows. -/
structure ExpressionPlace where
  level : Nat := Level.sequence
  /-- The operator `in` may stand without parentheses. -/
  allowIn : Bool := true
  /-- A call may stand without parentheses. -/
  allowCall : Bool := true
  /-- The expression is an operand of `??`. -/
  inCoalesce : Bool := false

/-- What the place of a statement allows. -/
structure StatementPlace where
  allowIn : Bool := true

/-- What an expression starts with, as far as it matters to what stands before it. -/
inductive Lead where
  | brace | function | classWord
  /-- The name `let`, alone. -/
  | letName
  /-- An index into what is named `let`. -/
  | letIndex
  | other
deriving DecidableEq

def parenthesize (text : String) : String :=
  "(" ++ text ++ ")"

/-- Text that binds at a level, in parentheses where a higher level is asked for. -/
def atLevel (current : Nat) (place : ExpressionPlace) (text : String) : String :=
  if current < place.level then parenthesize text else text

/-- Inside parentheses `in` is allowed. -/
def ExpressionPlace.inside (place : ExpressionPlace) (current : Nat) : ExpressionPlace :=
  { place with allowIn := place.allowIn || current < place.level }

/-- How a node is printed in each of the positions it can have. -/
structure Rendering where
  node : Node
  expression : ExpressionPlace → Print String
  statement : StatementPlace → Print String
  /-- The parameters and the body, for a function. -/
  callable : Print String
  /-- The target of a loop over keys or values. -/
  loopTarget : Print String
  /-- What the text starts with, parentheses left aside. -/
  lead : Print Lead

/-- A node to be printed, with the renderings of its children. -/
structure Parts where
  node : Node
  branches : List (Field × Option Rendering)

namespace Parts

def tag (p : Parts) : String :=
  kindText p.node.kind

/-- A child, which has to have a kind. -/
def checked (p : Parts) (field : Field) (r : Rendering) : Print Rendering :=
  if r.node.kind.isSome then return r else throw (.missingChild p.tag field.text)

def child? (p : Parts) (field : Field) : Print (Option Rendering) :=
  if p.node.head.lists.contains field then return none
  else ((p.branches.find? fun branch ↦ branch.1 = field).bind (·.2)).mapM (p.checked field)

/-- A child that the node has to have. -/
def child (p : Parts) (field : Field) : Print Rendering := do
  match ← p.child? field with
  | some r => return r
  | none => throw (.missingChild p.tag field.text)

/-- The items of a list, which may have gaps. -/
def items (p : Parts) (field : Field) : Print (List (Option Rendering)) :=
  if p.node.head.lists.contains field then
    (p.branches.filter fun branch ↦ branch.1 = field).mapM fun branch ↦
      branch.2.mapM (p.checked field)
  else throw (.missingList p.tag field.text)

/-- The items of a list that has no gaps. -/
def list (p : Parts) (field : Field) : Print (List Rendering) := do
  (← p.items field).mapM fun item ↦
    match item with
    | some r => return r
    | none => throw (.missingChild p.tag field.text)

def operator (p : Parts) : String :=
  p.node.head.operator.getD ""

end Parts

/-- The spelling of a child that is an identifier. -/
def nameOf (r : Rendering) : Print String :=
  (name r.node : Except PrintFault String)

/-- The spelling of a child as it is, whether it is a name or not. -/
def spelling (r : Rendering) : String :=
  r.node.head.name.getD ""

/-- A statement that belongs to another one: a block on the same line, anything else on the next. -/
def body (r : Rendering) (place : StatementPlace) : Print String := do
  if r.node.hasKind .blockStatement then return " " ++ (← r.statement place)
  else if r.node.hasKind .emptyStatement then return ";"
  else indented do return (← newLine) ++ (← r.statement place)

/-- What separates a statement's body from what follows it. -/
def afterBody (isBlock : Bool) (text : String) : Print String := do
  if endsLine text then return text ++ (← base)
  else if isBlock then return text ++ " "
  else return text ++ (← newLine)

def commaList (texts : List String) : String :=
  ", ".intercalate texts

/-- Text that must not be broken off from the word before it. -/
def unbroken (text : String) : String :=
  if hasLineEnd text then parenthesize text else text

end Relabel.Printing
