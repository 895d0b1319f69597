import Relabel.Source.Cursor

/-!
# The grammar

The parts of a program that contain each other. A grammar says how each of them is read; the
readers of the single constructs are given a grammar for what they contain. A grammar that reads
nested constructs down to some depth is made from one that reads them one level less deep.
-/

namespace Relabel.Source

structure Grammar where
  /-- An expression without commas. -/
  assignment : Parsing Term
  exponentiation : Parsing Term
  unary : Parsing Term
  /-- A primary expression with members and calls. -/
  call : Parsing Term
  /-- A primary expression with members only: what `new` makes an object of. -/
  maker : Parsing Term
  /-- A pattern of a declaration of the given variety, with the tokens that it binds. -/
  pattern : Option String → Parsing (Piece × List Token)
  statement : Parsing Piece
  /-- A statement or declaration. -/
  item : Parsing Piece

/-- The grammar that reads nothing. -/
def Grammar.empty : Grammar :=
  let nothing {α : Type} : Parsing α := refuse .illegalToken
  { assignment := nothing, exponentiation := nothing, unary := nothing, call := nothing
    maker := nothing, pattern := fun _ ↦ nothing, statement := nothing, item := nothing }

variable (g : Grammar)

/-- An expression: one assignment, or several between commas. -/
def expression : Parsing Term := do
  let start ← lookahead
  let first ← isolate g.assignment
  let rest ← moreItems (isolate g.assignment)
  if rest.isEmpty then return first
  finishTerm (start.marker 0) .sequenceExpression (manyTerms .expressions (first :: rest))

/-- A name that may be any word. -/
def propertyName : Parsing Term := do
  let start ← here
  let t ← advance
  unless t.isName do unexpected t
  identifierNode start t.text

/-- A name that can be bound. -/
def boundName (variety : Option String) : Parsing Term := do
  let start ← here
  let t ← advance
  let now ← context
  if t.isKeyword "yield" then
    if now.strict then refuseToken t .strictReservedWord
    unless now.allowYield do unexpected t
  else if t.type != .identifier then
    if now.strict && t.type == .keyword && isStrictReserved t.text then
      refuseToken t .strictReservedWord
    unless !now.strict && t.text == "let" && variety == some "var" do unexpected t
  else if (now.isModule || now.allowAwait) && t.text == "await" then unexpected t
  identifierNode start t.text

/-- The key of a property. -/
def propertyKey : Parsing Term := do
  let start ← here
  let t ← advance
  match t.type with
  | .text | .number =>
    if (← context).strict && t.octal then refuseToken t .strictOctal
    literalNode start t.value
  | .identifier | .boolean | .null | .keyword => identifierNode start t.text
  | _ =>
    if t.isMark "[" then
      let key ← isolate g.assignment
      expect "]"
      return key
    unexpected t

/-- A token that starts a property's key. -/
def Token.startsKey (t : Token) : Bool :=
  t.isName || t.type == .text || t.type == .number || t.isMark "["

/-- Whether a key is spelled in a given way. -/
def isKeyOf (key : Piece) (name : String) : Bool :=
  (key.node.hasKind .identifier && key.node.head.name == some name) ||
    (key.node.hasKind .literal && key.node.head.value == some (.text name))

/-- Whether `async` and `function` come next, on one line. -/
def isNextAsyncFunction : Parsing Bool := do
  if ← isNextWord "async" then
    let line := (← get).scan.line
    let t ← secondToken
    return line == t.line && t.isKeyword "function"
  return false

end Relabel.Source
