import Relabel.Source.Property
import Relabel.Syntax.Query

/-!
# Expressions

What stands in parentheses may be an expression or the parameters of an arrow function; which of
the two is known only at the arrow. Until then the parameters are held in a node of their own.
-/

namespace Relabel.Source

variable (g : Grammar)

def arrowHeadKind : Kind := .other "ArrowParameterPlaceHolder"

/-- The parameters of an arrow function that is still to come. -/
def arrowHead (params : List Piece) (isAsync : Bool) : Term :=
  .make arrowHeadKind { id := default, isAsync } (many .params params)

/-- The arrow has to come next. -/
def beforeArrow : Parsing Unit := do
  unless ← isNext "=>" do expect "=>"

/-- Collects items in parentheses after the first; says whether they can only be parameters. -/
def groupItemsFor : Nat → List Piece → Parsing (List Piece × Bool)
  | 0, found => return (found.reverse, false)
  | fuel + 1, found => do
    unless ← accept "," do return (found.reverse, false)
    if ← accept ")" then return (found.reverse, true)
    else if ← isNext "..." then
      unless (← context).isBinding do unexpected (← lookahead)
      let (rest, _) ← restParameter g
      expect ")"
      beforeArrow
      modifyContext ({ · with isBinding := false })
      return ((rest :: found).reverse, true)
    else groupItemsFor fuel ((← inherit g.assignment) :: found)

/-- The closing parenthesis after an expression, which is a parameter list if an arrow follows. -/
def closeGroup (value : Term) : Parsing Term := do
  expect ")"
  let result ← if ← isNext "=>" then
      if value.node.isNamed "yield" then pure (arrowHead [value] false)
      else
        unless (← context).isBinding do unexpected (← lookahead)
        let params := if value.node.hasKind .sequenceExpression then
          (value.items .expressions).filterMap (fun item ↦ item) else [value.toPiece]
        pure (arrowHead (params.map asPattern) false)
    else pure value
  modifyContext ({ · with isBinding := false })
  return result

/-- An expression or parameters in parentheses. -/
def group : Parsing Term := do
  expect "("
  if ← accept ")" then
    beforeArrow
    return arrowHead [] false
  else if ← isNext "..." then
    let (rest, _) ← restParameter g
    expect ")"
    beforeArrow
    return arrowHead [rest] false
  else
    let start ← lookahead
    modifyContext ({ · with isBinding := true })
    let first ← inherit g.assignment
    if ← isNext "," then
      modifyContext ({ · with isTarget := false })
      let (items, isHead) ← groupItemsFor g ((← get).scan.text.size + 2) [first]
      if isHead then return arrowHead (items.map asPattern) false
      else closeGroup (← finishTerm (start.marker 0) .sequenceExpression (many .expressions items))
    else closeGroup first

def array : Parsing Term := do
  let start ← here
  expect "["
  let elements : List (Option Piece) ← collect do
    if ← isNext "]" then return none
    else if ← accept "," then return some none
    else if ← isNext "..." then
      let element ← spread g
      unless ← isNext "]" do
        plainValue
        expect ","
      return some (some element)
    else
      let element ← inherit g.assignment
      unless ← isNext "]" do expect ","
      return some (some element)
  expect "]"
  finishTerm start .arrayExpression (elements.map (Field.elements, ·))

/-- A part of a template; says whether it is the last. -/
def templatePart : Parsing (Piece × Bool) := do
  let start ← here
  let t ← advance
  return (← finish start .templateElement [] ({ · with raw := some t.text }), t.isTail)

/-- The expressions of a template, each with the part after it. -/
def templateRestFor : Nat → List (Term × Piece) → Parsing (List (Term × Piece))
  | 0, found => return found.reverse
  | fuel + 1, found => do
    let value ← expression g
    unless (← lookahead).type == .template do refuse .illegalToken
    let (part, isTail) ← templatePart
    let found := (value, part) :: found
    if isTail then return found.reverse else templateRestFor fuel found

def template : Parsing Term := do
  let start ← here
  let (first, isTail) ← templatePart
  let more ← if isTail then pure [] else templateRestFor g ((← get).scan.text.size + 2) []
  finishTerm start .templateLiteral
    (many .quasis (first :: more.map (·.2)) ++ many .expressions (more.map (·.1)))

def regex : Parsing Term := do
  let start ← here
  plainValue
  let t ← advanceRegex
  literalNode start t.value

/-- A literal that is one token. -/
def constant : Parsing Term := do
  let start ← here
  let t ← lookahead
  if (← context).strict && t.octal then refuseToken t .strictOctal
  plainValue
  let _ ← advance
  literalNode start t.value

/-- A primary expression that starts with a keyword. -/
def keywordExpression : Parsing Term := do
  let start ← here
  let t ← lookahead
  let now ← context
  if !now.strict && now.allowYield && t.text == "yield" then propertyName
  else if !now.strict && t.text == "let" then
    let _ ← advance
    identifierNode start t.text
  else
    plainValue
    if t.text == "function" then functionExpression g
    else if t.text == "this" then
      let _ ← advance
      finishTerm start .thisExpression []
    else if t.text == "class" then classExpression g
    else if t.text == "import" then
      let isCall := (← secondToken).isMark "("
      let word ← advance
      if isCall then finishTerm start .importCall [] else unexpected word
    else unexpected (← advance)

def primary : Parsing Term := do
  let start ← here
  let t ← lookahead
  let now ← context
  match t.type with
  | .identifier =>
    if (now.isModule || now.allowAwait) && t.text == "await" then unexpected t
    if ← isNextAsyncFunction then functionExpression g
    else
      let _ ← advance
      identifierNode start t.text
  | .number | .text | .boolean | .null => constant
  | .template => if t.isHead then template g else throw .headlessTemplate
  | .keyword => keywordExpression g
  | .punctuator =>
    match t.text with
    | "(" =>
      modifyContext ({ · with isBinding := false })
      inherit (group g)
    | "[" => inherit (array g)
    | "\x7b" => inherit (object g)
    | "/" | "/=" => regex
    | _ => unexpected (← advance)
  | _ => unexpected (← advance)

def arguments (item : Parsing Term) : Parsing (List Term) := do
  expect "("
  let found ← commaItems ")" do
    if ← isNext "..." then spread g else isolate item
  expect ")"
  return found

/-- An argument that may turn out to be a parameter of an asynchronous arrow function. -/
def asyncArgument : Parsing Term := do
  let value ← g.assignment
  modifyContext ({ · with patternDefault := none })
  return value

def newExpression : Parsing Term := do
  let start ← here
  let word ← propertyName
  if ← accept "." then
    let t ← lookahead
    unless t.isWord "target" && (← context).inFunction do unexpected t
    let property ← propertyName
    finishTerm start .metaProperty (one .metaName word ++ one .property property)
  else if ← isNextKeyword "import" then unexpected (← lookahead)
  else
    let callee ← isolate g.maker
    let args ← if ← isNext "(" then arguments g g.assignment else pure []
    plainValue
    finishTerm start .newExpression (one .callee callee ++ manyTerms .arguments args)

/-- A member after an object, or a template after a tag. -/
def memberStep (start : Marker) (value : Term) : Parsing (Option Term) := do
  if ← isNext "." then
    memberValue
    expect "."
    let property ← propertyName
    some <$> finishTerm start .memberExpression (one .object value ++ one .property property)
  else if ← isNext "[" then
    memberValue
    expect "["
    let property ← isolate (expression g)
    expect "]"
    some <$> finishTerm start .memberExpression (one .object value ++ one .property property)
      ({ · with computed := true })
  else
    let t ← lookahead
    if t.type == .template && t.isHead then
      let quasi ← template g
      some <$> finishTerm start .taggedTemplate (one .tag value ++ one .quasi quasi)
    else return none

/-- A call after a function. -/
def callStep (start : Token) (value : Term) : Parsing (Option Term) := do
  if ← isNext "(" then
    let mayBeHead := start.isWord "async" && start.line == (← lookahead).line
    plainValue
    let args ← arguments g (if mayBeHead then asyncArgument g else g.assignment)
    if value.node.hasKind .importCall && args.length ≠ 1 then refuseLine .bareToken
    let result ← finishTerm (start.marker 0) .callExpression
      (one .callee value ++ manyTerms .arguments args)
    if mayBeHead && (← isNext "=>") then
      return some (arrowHead (args.map fun arg ↦ asPattern arg.toPiece) true)
    else return some result
  else memberStep g (start.marker 0) value

/-- The parent of an object or class, from which something has to be taken. -/
def superReference (follow : List String) : Parsing Term := do
  let start ← here
  let _ ← advance
  let result ← finishTerm start .superReference []
  unless ← isNextOf follow do unexpected (← lookahead)
  return result

def isNextSuper : Parsing Bool := do
  return (← isNextKeyword "super") && (← context).inFunction

def memberStart : Parsing Term := do
  inherit (if ← isNextKeyword "new" then newExpression g else primary g)

def call : Parsing Term := do
  let start ← lookahead
  let outer ← context
  modifyContext ({ · with allowIn := true })
  let first ← if ← isNextSuper then superReference ["(", ".", "["] else memberStart g
  let result ← extend (callStep g start) first
  modifyContext ({ · with allowIn := outer.allowIn })
  return result

def maker : Parsing Term := do
  let start ← lookahead
  let first ← if ← isNextSuper then superReference ["[", "."] else memberStart g
  extend (memberStep g (start.marker 0)) first

/-! ## Operators -/

/-- Refuses an operand of an update that cannot be assigned to. -/
def checkOperand (operand : Piece) (complaint : Complaint) : Parsing Unit := do
  let now ← context
  if now.strict && operand.node.isIdentifier && operand.node.head.name.any isRestricted then
    refuseLine complaint
  unless now.isTarget do refuseLine .badAssignmentTarget

def updateNode (start : Marker) (operator : String) (operand : Term) (before : Bool) :
    Parsing Term :=
  finishTerm start .updateExpression (one .argument operand)
    ({ · with operator := some operator, before })

def update : Parsing Term := do
  let start ← lookahead
  if ← isNextOf ["++", "--"] then
    let t ← advance
    let operand ← inherit g.unary
    checkOperand operand .strictUpdate
    let result ← updateNode (start.marker 0) t.text operand true
    plainValue
    return result
  else
    let operand ← inherit (call g)
    if !(← lineEnded) && (← isNextOf ["++", "--"]) then
      checkOperand operand .strictPostfix
      plainValue
      let t ← advance
      updateNode (start.marker 0) t.text operand false
    else return operand

def isUnaryOperator (t : Token) : Bool :=
  ["+", "-", "~", "!"].any t.isMark || ["delete", "void", "typeof"].any t.isKeyword

def unary : Parsing Term := do
  let t ← lookahead
  if isUnaryOperator t then
    let _ ← advance
    let operand ← inherit g.unary
    let result ← finishTerm (t.marker 0) .unaryExpression (one .argument operand)
      ({ · with operator := some t.text, before := true })
    if (← context).strict && t.text == "delete" && operand.node.isIdentifier then
      refuseLine .strictDelete
    plainValue
    return result
  else if (← context).allowAwait && t.isWord "await" then
    let start ← here
    let _ ← advance
    let operand ← g.unary
    finishTerm start .awaitExpression (one .argument operand)
  else update g

/-- Whole expressions with two operands. -/
def binaryNode (start : Marker) (operator : String) (left right : Term) : Parsing Term :=
  let branches := one .left left ++ one .right right
  if operator == "||" || operator == "&&" then
    finishTerm start .logicalExpression branches ({ · with operator := some operator })
  else finishTerm start .binaryExpression branches ({ · with operator := some operator })

def exponentiation : Parsing Term := do
  let start ← lookahead
  let left ← inherit (unary g)
  if left.node.hasKind .unaryExpression then return left
  else if ← accept "**" then
    plainValue
    let right ← isolate g.exponentiation
    binaryNode (start.marker 0) "**" left right
  else return left

/-- How strongly an operator binds; zero for what is none. -/
def bindingLevel (allowIn : Bool) (t : Token) : Nat :=
  match t.type, t.text with
  | .punctuator, "||" => 1
  | .punctuator, "&&" => 2
  | .punctuator, "|" => 3
  | .punctuator, "^" => 4
  | .punctuator, "&" => 5
  | .punctuator, "==" | .punctuator, "!=" | .punctuator, "===" | .punctuator, "!==" => 6
  | .punctuator, "<" | .punctuator, ">" | .punctuator, "<=" | .punctuator, ">=" => 7
  | .keyword, "instanceof" => 7
  | .keyword, "in" => if allowIn then 7 else 0
  | .punctuator, "<<" | .punctuator, ">>" | .punctuator, ">>>" => 8
  | .punctuator, "+" | .punctuator, "-" => 9
  | .punctuator, "*" | .punctuator, "/" | .punctuator, "%" => 11
  | _, _ => 0

/-- An operator that waits for its right operand. -/
structure Pending where
  start : Token
  left : Term
  operator : String
  level : Nat

/-- An operand and the token it starts with. -/
abbrev Operand := Token × Term

/-- Completes the waiting operators that bind at least as strongly as a level. -/
def completeDownTo (level : Nat) : List Pending → Operand → Parsing (List Pending × Operand)
  | [], operand => return ([], operand)
  | p :: rest, operand => do
    if level ≤ p.level then
      let whole ← binaryNode (p.start.marker 0) p.operator p.left operand.2
      completeDownTo level rest (p.start, whole)
    else return (p :: rest, operand)

/-- Completes all waiting operators. -/
def completeAll : List Pending → Operand → Parsing Term
  | [], operand => return operand.2
  | p :: rest, operand => do
    let whole ← binaryNode (p.start.marker operand.1.lineStart) p.operator p.left operand.2
    completeAll rest (p.start, whole)

def binaryStep (state : List Pending × Operand) : Parsing (Option (List Pending × Operand)) := do
  let level := bindingLevel (← context).allowIn (← lookahead)
  if level = 0 then return none
  let (pending, operand) ← completeDownTo level state.1 state.2
  let t ← advance
  plainValue
  let start ← lookahead
  let right ← isolate g.exponentiation
  return some (⟨operand.1, operand.2, t.text, level⟩ :: pending, (start, right))

def binary : Parsing Term := do
  let start ← lookahead
  let first ← inherit (exponentiation g)
  let (pending, operand) ← extend (binaryStep g) ([], (start, first))
  completeAll pending operand

def conditional : Parsing Term := do
  let start ← lookahead
  let test ← inherit (binary g)
  if ← accept "?" then
    let outer ← context
    modifyContext ({ · with allowIn := true })
    let yes ← isolate g.assignment
    modifyContext ({ · with allowIn := outer.allowIn })
    expect ":"
    let no ← isolate g.assignment
    let result ← finishTerm (start.marker 0) .conditionalExpression
      (one .test test ++ one .consequent yes ++ one .alternate no)
    plainValue
    return result
  else return test

mutual

/-- The names that a pattern binds. -/
def boundNames : Node → List String
  | .mk head branches =>
    match head.kind with
    | some .identifier => head.name.toList
    | some kind => boundNamesIn kind branches
    | none => []

def boundNamesIn (kind : Kind) : List (Field × Option Node) → List String
  | [] => []
  | (field, some child) :: rest =>
    let binds := match kind, field with
      | .restElement, .argument | .assignmentPattern, .left | .arrayPattern, .elements
      | .objectPattern, .properties | .property, .value => true
      | _, _ => false
    (if binds then boundNames child else []) ++ boundNamesIn kind rest
  | (_, none) :: rest => boundNamesIn kind rest

end

/-- A pattern whose default is replaced by a name. -/
def nameDefault (param : Piece) (hkind : param.node.hasKind .assignmentPattern = true)
    (name : Term) : Piece where
  node := .mk param.node.head (param.node.branches.map fun branch ↦
    (branch.1, branch.2.map fun child ↦ if branch.1 = .right then name.node else child))
  whole := by
    have hproperty : param.node.kind ≠ some .property := by
      rw [beq_iff_eq.mp hkind]
      decide
    have hplain := param.whole.shorthand_eq_false hproperty
    refine .mk (fun hshorthand ↦ absurd (hplain.symm.trans hshorthand) (by simp)) ?_
    intro field child hchild
    refine whole_of_mem_map (f := fun field child ↦ if field = .right then name.node else child)
      (fun place part hpart ↦ ?_) hchild
    split
    · exact name.whole
    · exact param.whole.part hpart

/-- A parameter whose default is the bare word `yield`, which is a name there. -/
def nameYield (param : Piece) : Parsing Piece := do
  match param.node.child? .right with
  | some right =>
    if hkind : param.node.hasKind .assignmentPattern = true then
      if right.hasKind .yieldExpression then
        if (right.child? .argument).isSome then unexpected (← lookahead)
        let head := { right.head with name := some "yield", delegate := false }
        return nameDefault param hkind (.make .identifier head [])
      else return param
    else return param
  | none => return param

/-- The parameters that an expression stands for, if it can. -/
def arrowParameters (value : Term) : Parsing (Option Parameters) := do
  let isHead := value.node.hasKind arrowHeadKind
  if !isHead && !value.node.isIdentifier then return none
  let nodes := if isHead then (value.items .params).filterMap (fun param ↦ param)
    else [value.toPiece]
  let now ← context
  let nodes ← nodes.mapM nameYield
  for param in nodes do
    if value.node.head.isAsync && param.node.isNamed "await" then unexpected (← lookahead)
  if now.strict || !now.allowYield then
    for param in nodes do
      if param.node.hasKind .yieldExpression then unexpected (← lookahead)
  let start : Parameters := { nodes, simple := nodes.all (·.node.isIdentifier) }
  let names := nodes.flatMap fun param ↦ boundNames param.node
  let params := names.foldl (·.bind now.strict .earlier ·) start
  if params.complaint == some .strictDuplicateParameter then refuse .strictDuplicateParameter
  return some params

def arrowFunction (start : Token) (isAsync : Bool) (params : Parameters) : Parsing Term := do
  if ← lineEnded then unexpected (← lookahead)
  let outer ← context
  modifyContext ({ · with
    patternDefault := none, allowStrictDirective := params.simple, allowYield := true
    allowAwait := isAsync })
  expect "=>"
  let body : Piece ← if ← isNext "\x7b" then
      modifyContext ({ · with allowIn := true })
      let body ← functionBody g
      modifyContext ({ · with allowIn := outer.allowIn })
      pure body
    else Term.toPiece <$> isolate g.assignment
  checkParameters params (params.complaint.getD .illegalToken)
  let result ← finishTerm (start.marker 0) .arrowFunction
    (many .params params.nodes ++ one .body body)
    ({ · with isAsync, concise := !body.node.hasKind .blockStatement })
  modifyContext ({ · with
    strict := outer.strict, allowStrictDirective := outer.allowStrictDirective
    allowYield := outer.allowYield, allowAwait := outer.allowAwait })
  return result

def assignmentMarks : List String :=
  ["=", "*=", "**=", "/=", "%=", "+=", "-=", "<<=", ">>=", ">>>=", "&=", "^=", "|="]

/-- Tokens with which the operand of `yield` can start. -/
def startsOperand (t : Token) : Bool :=
  match t.type with
  | .punctuator =>
    ["[", "(", "\x7b", "+", "-", "!", "~", "++", "--", "/", "/="].contains t.text
  | .keyword =>
    ["class", "delete", "function", "let", "new", "super", "this", "typeof", "void",
      "yield"].contains t.text
  | _ => true

def yieldExpression : Parsing Term := do
  let start ← here
  expectKeyword "yield"
  if ← lineEnded then finishTerm start .yieldExpression []
  else
    let outer ← context
    modifyContext ({ · with allowYield := false })
    let delegate ← accept "*"
    let operand ← if delegate || startsOperand (← lookahead) then some <$> g.assignment
      else pure none
    modifyContext ({ · with allowYield := outer.allowYield })
    finishTerm start .yieldExpression (maybe .argument operand) ({ · with delegate })

/-- An assignment to what was just read. -/
def assignTo (start : Token) (target : Term) : Parsing Term := do
  let now ← context
  unless now.isTarget do refuseLine .badAssignmentTarget
  if now.strict && target.node.isIdentifier then
    if target.node.head.name.any isRestricted then refuseToken start .strictAssignment
    if target.node.head.name.any isStrictReserved then refuseToken start .strictReservedWord
  let isPlain ← isNext "="
  unless isPlain do plainValue
  let target : Piece := if isPlain then asPattern target else target
  let t ← advance
  let right ← isolate g.assignment
  let result ← finishTerm (start.marker 0) .assignmentExpression
    (one .left target ++ one .right right) ({ · with operator := some t.text })
  modifyContext ({ · with patternDefault := none })
  return result

def assignment : Parsing Term := do
  if !(← context).allowYield && (← isNextKeyword "yield") then yieldExpression g
  else
    let start ← lookahead
    let value ← conditional g
    let t ← lookahead
    let isAsyncHead := start.isWord "async" && start.line == t.line &&
      (t.type == .identifier || t.isKeyword "yield")
    let value ← if isAsyncHead then pure (arrowHead [asPattern (← primary g)] true)
      else pure value
    if value.node.hasKind arrowHeadKind || (← isNext "=>") then
      plainValue
      match ← arrowParameters value with
      | some params => arrowFunction g start value.node.head.isAsync params
      | none => return value
    else if ← isNextOf assignmentMarks then assignTo g start value
    else return value

end Relabel.Source
