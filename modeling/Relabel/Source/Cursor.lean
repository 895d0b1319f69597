import Relabel.Source.Lexeme
import Relabel.Source.Piece

/-!
# Reading tokens

A cursor stands between two tokens of a text: the next one is known already. Parsing a program
moves the cursor, makes nodes that remember where their first token starts and their last one ends,
and keeps track of what the place in the program allows.
-/

namespace Relabel.Source

/-- A place in the text. -/
structure Marker where
  index : Nat
  line : Nat
  column : Int
deriving Repr, DecidableEq, Inhabited

/-- What the place in the program allows. -/
structure Context where
  isModule : Bool := false
  strict : Bool := false
  allowAwait : Bool := false
  /-- The operator `in` may be used. -/
  allowIn : Bool := true
  /-- The directive for strict code may be used. -/
  allowStrictDirective : Bool := true
  /-- The word `yield` is a name. -/
  allowYield : Bool := true
  /-- The mark of the first default inside what is read as an object. -/
  patternDefault : Option Token := none
  /-- What was just read may be assigned to. -/
  isTarget : Bool := false
  /-- What was just read may be a binding. -/
  isBinding : Bool := false
  inFunction : Bool := false
  inLoop : Bool := false
  inSwitch : Bool := false
  labels : List String := []

structure Cursor where
  scan : Scan
  lookahead : Token
  /-- A line ends before the next token. -/
  lineEnded : Bool := false
  /-- The start of the next token. -/
  first : Marker
  /-- The end of the last token. -/
  last : Marker
  context : Context := {}

abbrev Parsing (α : Type) : Type := StateT Cursor (Except ReadFault) α

def Scan.marker (s : Scan) : Marker :=
  ⟨s.index, s.line, s.column⟩

def scanning {α : Type} (m : Scanning α) : Parsing α := fun c ↦
  match m c.scan with
  | .ok (a, scan) => .ok (a, { c with scan })
  | .error fault => .error fault

def lookahead : Parsing Token := do
  return (← get).lookahead

def context : Parsing Context := do
  return (← get).context

def modifyContext (f : Context → Context) : Parsing Unit :=
  modify fun c ↦ { c with context := f c.context }

def lineEnded : Parsing Bool := do
  return (← get).lineEnded

/-- Refuses the text at the end of the last token. -/
def refuse {α : Type} (complaint : Complaint) : Parsing α := do
  let c ← get
  throw (.refused ⟨complaint, c.last.line, c.last.column + 1⟩)

/-- Refuses the text at the column of the last token's end, on the line that was reached. -/
def refuseLine {α : Type} (complaint : Complaint) : Parsing α := do
  let c ← get
  throw (.refused ⟨complaint, c.scan.line, c.last.column + 1⟩)

/-- Refuses a token. Its column is counted from the start of the line of the last token. -/
def refuseToken {α : Type} (t : Token) (complaint : Complaint) : Parsing α := do
  let c ← get
  let lineStart : Int := c.last.index - c.last.column
  throw (.refused ⟨complaint, t.line, t.start - lineStart + 1⟩)

/-- What is said about a token that has no place where it stands. -/
def Token.complaint (t : Token) (strict : Bool) : Complaint :=
  match t.type with
  | .endOfText => .unexpectedEnd
  | .identifier => .unexpectedIdentifier
  | .number => .unexpectedNumber
  | .text => .unexpectedString
  | .template => .unexpectedTemplate t.text
  | .keyword =>
    if futureReservedWords.contains t.text then .unexpectedReserved
    else if strict && isStrictReserved t.text then .strictReservedWord
    else .unexpectedToken t.text
  | _ => .unexpectedToken t.text

def unexpected {α : Type} (t : Token) : Parsing α := do
  refuseToken t (t.complaint (← context).strict)

/-! ## Moving on -/

/-- Reads a token and looks at the next one. In strict code some identifiers are keywords. -/
def advance : Parsing Token := do
  let token ← lookahead
  modify fun c ↦ { c with last := c.scan.marker }
  scanning skipBlanks
  modify fun c ↦
    { c with first := if c.scan.index = c.first.index then c.first else c.scan.marker }
  let next ← scanning lexeme
  let next := if (← context).strict && next.type == .identifier && isStrictReserved next.text then
    { next with type := .keyword } else next
  modify fun c ↦ { c with lookahead := next, lineEnded := token.line != next.line }
  return token

/-- Reads the next token as a regular expression. -/
def advanceRegex : Parsing Token := do
  modify fun c ↦ { c with scan := { c.scan with index := c.first.index } }
  scanning skipBlanks
  let token ← scanning regexToken
  modify fun c ↦ { c with lookahead := token }
  advance

/-- The token after the next one. The braces it opens or closes stay counted. -/
def secondToken : Parsing Token := do
  let before := (← get).scan
  let token ← scanning do
    skipBlanks
    lexeme
  modify fun c ↦ { c with scan :=
    { c.scan with index := before.index, line := before.line, lineStart := before.lineStart } }
  return token

/-- The cursor at the start of a text. The end of the last token is the end of the first one until
another is read. -/
def Cursor.start (text : String) (context : Context) : Except ReadFault Cursor := do
  let scan := Scan.start text
  let first : Token :=
    { type := .endOfText, line := scan.line, lineStart := 0, start := 0, stop := 0 }
  let marker : Marker := ⟨0, scan.line, 0⟩
  let start : Cursor := { scan, lookahead := first, first := marker, last := marker }
  let (_, c) ← advance.run start
  return { c with
    last := c.scan.marker
    context
    scan := { c.scan with isModule := context.isModule } }

def isNext (mark : String) : Parsing Bool := do
  return (← lookahead).isMark mark

def isNextKeyword (word : String) : Parsing Bool := do
  return (← lookahead).isKeyword word

def isNextWord (word : String) : Parsing Bool := do
  return (← lookahead).isWord word

def isNextOf (marks : List String) : Parsing Bool := do
  let t ← lookahead
  return t.type == .punctuator && marks.contains t.text

def expect (mark : String) : Parsing Unit := do
  let t ← advance
  unless t.isMark mark do unexpected t

def expectKeyword (word : String) : Parsing Unit := do
  let t ← advance
  unless t.isKeyword word do unexpected t

/-- Reads a mark if it comes next. -/
def accept (mark : String) : Parsing Bool := do
  if ← isNext mark then
    let _ ← advance
    return true
  return false

def acceptKeyword (word : String) : Parsing Bool := do
  if ← isNextKeyword word then
    let _ ← advance
    return true
  return false

/-- Reads the end of a statement: a semicolon, or none where a line or a block ends. -/
def endStatement : Parsing Unit := do
  if ← accept ";" then return
  unless ← lineEnded do
    let t ← lookahead
    unless t.type == .endOfText || t.isMark "\x7d" do unexpected t
    modify fun c ↦ { c with last := c.first }

/-- The place where the next token starts. -/
def here : Parsing Marker := do
  return (← get).first

/-- The place where a token starts. A token that ends on a later line counts from there. -/
def Token.marker (t : Token) (lastLineStart : Nat) : Marker :=
  let column : Int := (t.start : Int) - t.lineStart
  if column < 0 then ⟨t.start, t.line - 1, column + lastLineStart⟩
  else ⟨t.start, t.line, column⟩

/-- The head, all but the kind, of a node that starts at a place and ends with the last token. -/
def Cursor.head (c : Cursor) (start : Marker) (kind : Kind) : Head :=
  let span : Span := ⟨⟨start.line, start.column⟩, ⟨c.last.line, c.last.column⟩⟩
  { id := default, span := some span, lists := kind.listFields }

/-- Makes a node that starts at a place and ends with the last token. -/
def finish (start : Marker) (kind : Kind) (branches : Branches) (describe : Head → Head := id) :
    Parsing Piece := do
  let c ← get
  return .make kind (describe (c.head start kind)) branches

/-- Makes a term that starts at a place and ends with the last token. -/
def finishTerm (start : Marker) (kind : Kind) (branches : Branches) (describe : Head → Head := id)
    (hkind : kind.isStatement = false := by exact Eq.refl false) : Parsing Term := do
  let c ← get
  return .make kind (describe (c.head start kind)) branches hkind

/-- Makes a property that stands for a name. -/
def finishShorthand (start : Marker) (key value : Term) (computed : Bool) : Parsing Term := do
  let c ← get
  return .shorthand { c.head start .property with variety := some "init", computed } key value

def identifierNode (start : Marker) (name : String) : Parsing Term :=
  finishTerm start .identifier [] ({ · with name := some name })

def literalNode (start : Marker) (value : Literal) : Parsing Term :=
  finishTerm start .literal [] ({ · with value := some value })

/-- What was read is neither a binding nor a target of an assignment. -/
def plainValue : Parsing Unit :=
  modifyContext ({ · with isTarget := false, isBinding := false })

/-- What was read is a target of an assignment, but no binding. -/
def memberValue : Parsing Unit :=
  modifyContext ({ · with isTarget := true, isBinding := false })

/-- Reads a part that is complete in itself: a default that needs a pattern is refused. -/
def isolate {α : Type} (part : Parsing α) : Parsing α := do
  let outer ← context
  modifyContext ({ · with isTarget := true, isBinding := true, patternDefault := none })
  let result ← part
  match (← context).patternDefault with
  | some t => unexpected t
  | none =>
    modifyContext ({ · with
      isTarget := outer.isTarget, isBinding := outer.isBinding
      patternDefault := outer.patternDefault })
    return result

/-- Reads a part of something larger: what it rules out is ruled out for the whole. -/
def inherit {α : Type} (part : Parsing α) : Parsing α := do
  let outer ← context
  modifyContext ({ · with isTarget := true, isBinding := true, patternDefault := none })
  let result ← part
  modifyContext fun inner ↦ { inner with
    isTarget := inner.isTarget && outer.isTarget
    isBinding := inner.isBinding && outer.isBinding
    patternDefault := outer.patternDefault.or inner.patternDefault }
  return result

/-- Collects what a step gives until it gives nothing; every step reads a token. -/
def collectFor {α : Type} (step : Parsing (Option α)) : Nat → List α → Parsing (List α)
  | 0, found => return found.reverse
  | fuel + 1, found => do
    match ← step with
    | some a => collectFor step fuel (a :: found)
    | none => return found.reverse

def collect {α : Type} (step : Parsing (Option α)) : Parsing (List α) := do
  collectFor step ((← get).scan.text.size + 2) []

/-- Items between commas up to a closing mark, which is not read. -/
def commaItems {α : Type} (closing : String) (item : Parsing α) : Parsing (List α) :=
  collect do
    if ← isNext closing then return none
    let found ← item
    unless ← isNext closing do expect ","
    return some found

/-- Items each of which follows a comma. -/
def moreItems {α : Type} (item : Parsing α) : Parsing (List α) :=
  collect do
    if ← accept "," then return some (← item)
    return none

/-- Repeats a step that changes what was read until it leaves it as it is. -/
def extendFor {α : Type} (step : α → Parsing (Option α)) : Nat → α → Parsing α
  | 0, a => return a
  | fuel + 1, a => do
    match ← step a with
    | some a => extendFor step fuel a
    | none => return a

def extend {α : Type} (step : α → Parsing (Option α)) (a : α) : Parsing α := do
  extendFor step ((← get).scan.text.size + 2) a

end Relabel.Source
