import Relabel.Source.Expression

/-!
# Statements
-/

namespace Relabel.Source

variable (g : Grammar)

def block : Parsing Piece := do
  let start ← here
  expect "\x7b"
  let body ← collect do
    if ← isNext "\x7d" then return none
    return some (← g.item)
  expect "\x7d"
  finish start .blockStatement (many .body body)

/-- An expression in parentheses. -/
def inParentheses : Parsing Term := do
  expect "("
  let value ← expression g
  expect ")"
  return value

/-- Refuses a name that strict code does not allow to be declared. -/
def checkVariableName (id : Piece) : Parsing Unit := do
  if (← context).strict && id.node.isIdentifier && id.node.head.name.any isRestricted then
    refuseLine .strictVariableName

def declaratorNode (start : Marker) (id : Piece) (init : Option Term) : Parsing Piece :=
  finish start .variableDeclarator (one .id id ++ maybe .init init)

/-- A declarator of `var`. Outside the head of a loop a pattern needs a value. -/
def variableDeclarator (inLoopHead : Bool) : Parsing Piece := do
  let start ← here
  let (id, _) ← g.pattern (some "var")
  checkVariableName id
  let init ← if ← accept "=" then some <$> isolate g.assignment
    else if !id.node.isIdentifier && !inLoopHead then do
      expect "="
      pure none
    else pure none
  declaratorNode start id init

def isNextLoopWord : Parsing Bool := do
  return (← isNextKeyword "in") || (← isNextWord "of")

/-- A declarator of `let` or `const`. A constant needs a value unless a loop gives it one. -/
def lexicalDeclarator (variety : String) (inLoopHead : Bool) : Parsing Piece := do
  let start ← here
  let (id, _) ← g.pattern (some variety)
  checkVariableName id
  let init ← if variety == "const" then
      if ← isNextLoopWord then pure none
      else if ← accept "=" then some <$> isolate g.assignment
      else refuse (.missingInitializer "const")
    else if (!inLoopHead && !id.node.isIdentifier) || (← isNext "=") then do
      expect "="
      some <$> isolate g.assignment
    else pure none
  declaratorNode start id init

/-- Declarators between commas. -/
def declarators (one : Parsing Piece) : Parsing (List Piece) := do
  let first ← one
  return first :: (← moreItems one)

def declarationNode (start : Marker) (variety : String) (items : List Piece) : Parsing Piece :=
  finish start .variableDeclaration (many .declarations items) ({ · with variety := some variety })

def variableStatement : Parsing Piece := do
  let start ← here
  expectKeyword "var"
  let items ← declarators (variableDeclarator g false)
  endStatement
  declarationNode start "var" items

def lexicalDeclaration : Parsing Piece := do
  let start ← here
  let variety := (← advance).text
  let items ← declarators (lexicalDeclarator g variety false)
  endStatement
  declarationNode start variety items

/-- Whether `let` starts a declaration here. -/
def isLexicalNext : Parsing Bool := do
  let t ← secondToken
  return t.type == .identifier || t.isMark "[" || t.isMark "\x7b" || t.isKeyword "let" ||
    t.isKeyword "yield"

def emptyStatement : Parsing Piece := do
  let start ← here
  expect ";"
  finish start .emptyStatement []

def expressionStatement : Parsing Piece := do
  let start ← here
  let value ← expression g
  endStatement
  finish start .expressionStatement (one .expression value)

def branch : Parsing Piece := do
  if (← context).strict && (← isNextKeyword "function") then refuseLine .strictFunction
  g.statement

def ifStatement : Parsing Piece := do
  let start ← here
  expectKeyword "if"
  let test ← inParentheses g
  let yes ← branch g
  let no ← if ← acceptKeyword "else" then some <$> branch g else pure none
  finish start .ifStatement (one .test test ++ one .consequent yes ++ maybe .alternate no)

def returnStatement : Parsing Piece := do
  unless (← context).inFunction do refuseLine .illegalReturn
  let start ← here
  expectKeyword "return"
  let t ← lookahead
  let isOver := t.isMark ";" || t.isMark "\x7d" || t.type == .endOfText || (← lineEnded)
  let value ← if !isOver || t.type == .text || t.type == .template then some <$> expression g
    else pure none
  endStatement
  finish start .returnStatement (maybe .argument value)

def throwStatement : Parsing Piece := do
  let start ← here
  expectKeyword "throw"
  if ← lineEnded then refuse .lineEndAfterThrow
  let value ← expression g
  endStatement
  finish start .throwStatement (one .argument value)

def withStatement : Parsing Piece := do
  if (← context).strict then refuseLine .strictWith
  let start ← here
  expectKeyword "with"
  let object ← inParentheses g
  let body ← g.statement
  finish start .withStatement (one .object object ++ one .body body)

def debuggerStatement : Parsing Piece := do
  let start ← here
  expectKeyword "debugger"
  endStatement
  finish start .debuggerStatement []

/-! ## Loops -/

/-- The body of a loop. -/
def loopBody (body : Parsing Piece) : Parsing Piece := do
  let outer ← context
  modifyContext ({ · with inLoop := true })
  let result ← body
  modifyContext ({ · with inLoop := outer.inLoop })
  return result

def whileStatement : Parsing Piece := do
  let start ← here
  expectKeyword "while"
  let test ← inParentheses g
  let body ← loopBody g.statement
  finish start .whileStatement (one .test test ++ one .body body)

def doWhileStatement : Parsing Piece := do
  let start ← here
  expectKeyword "do"
  let body ← loopBody g.statement
  expectKeyword "while"
  let test ← inParentheses g
  let _ ← accept ";"
  finish start .doWhileStatement (one .body body ++ one .test test)

/-- What a loop runs over: keys or values of an object, or nothing but its own conditions. -/
inductive LoopHead where
  | keys (left right : Piece)
  | values (left right : Piece)
  | conditions (init : Option Piece)

/-- Reads a part in which `in` belongs to the loop. -/
def withoutIn {α : Type} (part : Parsing α) : Parsing α := do
  let outer ← context
  modifyContext ({ · with allowIn := false })
  let result ← part
  modifyContext ({ · with allowIn := outer.allowIn })
  return result

def keysHead (left : Piece) : Parsing LoopHead := do
  let _ ← advance
  return .keys left (← expression g)

def valuesHead (left : Piece) : Parsing LoopHead := do
  let _ ← advance
  return .values left (← g.assignment)

/-- The value with which a single declarator starts. -/
def soleDeclarator? (items : List Piece) : Option Piece :=
  match items with
  | [only] => some only
  | _ => none

def hasValue (declarator : Piece) : Bool :=
  (declarator.node.child? .init).isSome

def variableHead : Parsing LoopHead := do
  let start ← here
  let _ ← advance
  let items ← withoutIn (declarators (variableDeclarator g true))
  let node := declarationNode start "var" items
  match soleDeclarator? items with
  | some only =>
    if ← isNextKeyword "in" then
      let isPattern := (only.node.child? .id).any fun id ↦
        id.hasKind .arrayPattern || id.hasKind .objectPattern
      if hasValue only && (isPattern || (← context).strict) then
        refuseLine (.loopInitializer "for-in")
      keysHead g (← node)
    else if !hasValue only && (← isNextWord "of") then valuesHead g (← node)
    else
      let init ← node
      expect ";"
      return .conditions (some init)
  | none =>
    let init ← node
    expect ";"
    return .conditions (some init)

def lexicalHead : Parsing LoopHead := do
  let start ← here
  let variety := (← advance).text
  if !(← context).strict && (← lookahead).text == "in" then
    keysHead g (← identifierNode start variety)
  else
    let items ← withoutIn (declarators (lexicalDeclarator g variety true))
    let bare := (soleDeclarator? items).any fun only ↦ !hasValue only
    if bare && (← isNextKeyword "in") then keysHead g (← declarationNode start variety items)
    else if bare && (← isNextWord "of") then valuesHead g (← declarationNode start variety items)
    else
      endStatement
      return .conditions (some (← declarationNode start variety items))

/-- Refuses what a loop cannot assign to. -/
def checkLoopTarget (target : Piece) (complaint : Complaint) : Parsing Unit := do
  if !(← context).isTarget || target.node.hasKind .assignmentExpression then refuseLine complaint

def expressionHead : Parsing LoopHead := do
  let start ← lookahead
  let first ← withoutIn (inherit g.assignment)
  if ← isNextKeyword "in" then
    checkLoopTarget first .badForInTarget
    keysHead g (asPattern first)
  else if ← isNextWord "of" then
    checkLoopTarget first .badForTarget
    valuesHead g (asPattern first)
  else
    let rest ← moreItems (isolate g.assignment)
    let init ← if rest.isEmpty then pure first
      else finishTerm (start.marker 0) .sequenceExpression (manyTerms .expressions (first :: rest))
    expect ";"
    return .conditions (some init)

def loopHead : Parsing LoopHead := do
  if ← accept ";" then return .conditions none
  else if ← isNextKeyword "var" then variableHead g
  else if (← isNextKeyword "const") || (← isNextKeyword "let") then lexicalHead g
  else expressionHead g

/-- The condition and the step of a loop, each of which may be missing. -/
def loopConditions : Parsing (Option Term × Option Term) := do
  let test ← if ← isNext ";" then pure none else some <$> expression g
  expect ";"
  let update ← if ← isNext ")" then pure none else some <$> expression g
  return (test, update)

def forStatement : Parsing Piece := do
  let start ← here
  expectKeyword "for"
  expect "("
  let head ← loopHead g
  let (test, update) ← match head with
    | .conditions _ => loopConditions g
    | _ => pure (none, none)
  expect ")"
  let body ← loopBody (isolate g.statement)
  match head with
  | .keys left right =>
    finish start .forInStatement (one .left left ++ one .right right ++ one .body body)
  | .values left right =>
    finish start .forOfStatement (one .left left ++ one .right right ++ one .body body)
  | .conditions init =>
    finish start .forStatement
      (maybe .init init ++ maybe .test test ++ maybe .update update ++ one .body body)

/-- The label of a jump, which has to be known. -/
def jumpLabel : Parsing (Option Term) := do
  if (← lookahead).type == .identifier && !(← lineEnded) then
    let label ← boundName none
    let name := label.node.head.name.getD ""
    unless (← context).labels.contains name do refuse (.unknownLabel name)
    return some label
  return none

def jump (word : String) (kind : Kind) (complaint : Complaint) (allowed : Context → Bool) :
    Parsing Piece := do
  let start ← here
  expectKeyword word
  let label ← jumpLabel
  endStatement
  if label.isNone && !allowed (← context) then refuse complaint
  finish start kind (maybe .label label)

def breakStatement : Parsing Piece :=
  jump "break" .breakStatement .illegalBreak fun now ↦ now.inLoop || now.inSwitch

def continueStatement : Parsing Piece :=
  jump "continue" .continueStatement .illegalContinue (·.inLoop)

/-- What a label stands before. -/
def labelledBody : Parsing Piece := do
  let t ← lookahead
  if t.isKeyword "class" then unexpected t
  else if t.isKeyword "function" then
    let declaration ← functionDeclaration g false
    if (← context).strict then refuseToken t .strictFunction
    else if declaration.node.head.generator then refuseToken t .generatorInLegacyContext
    return declaration
  else g.statement

/-- A statement with a label, or an expression that starts with a name. -/
def labelledStatement : Parsing Piece := do
  let start ← here
  let value ← expression g
  let isLabel ← if value.node.isIdentifier then accept ":" else pure false
  if isLabel then
    let name := value.node.head.name.getD ""
    let labels := (← context).labels
    if labels.contains name then refuse (.redeclaredLabel name)
    modifyContext ({ · with labels := name :: labels })
    let body ← labelledBody g
    modifyContext fun now ↦ { now with labels := now.labels.erase name }
    finish start .labeledStatement (one .label value ++ one .body body)
  else
    endStatement
    finish start .expressionStatement (one .expression value)

def switchCase : Parsing Piece := do
  let start ← here
  let test ← if ← acceptKeyword "default" then pure none else do
    expectKeyword "case"
    some <$> expression g
  expect ":"
  let body ← collect do
    if (← isNext "\x7d") || (← isNextKeyword "default") || (← isNextKeyword "case") then
      return none
    return some (← g.item)
  finish start .switchCase (maybe .test test ++ many .consequent body)

/-- The cases of a choice, of which only one may be the default. -/
def switchCasesFor : Nat → Bool → List Piece → Parsing (List Piece)
  | 0, _, found => return found.reverse
  | fuel + 1, hasDefault, found => do
    if ← isNext "\x7d" then return found.reverse
    let clause ← switchCase g
    let isDefault := (clause.node.child? .test).isNone
    if isDefault && hasDefault then refuse .secondDefault
    switchCasesFor fuel (hasDefault || isDefault) (clause :: found)

def switchStatement : Parsing Piece := do
  let start ← here
  expectKeyword "switch"
  let subject ← inParentheses g
  let outer ← context
  modifyContext ({ · with inSwitch := true })
  expect "\x7b"
  let cases ← switchCasesFor g ((← get).scan.text.size + 2) false []
  expect "\x7d"
  modifyContext ({ · with inSwitch := outer.inSwitch })
  finish start .switchStatement (one .discriminant subject ++ many .cases cases)

/-- The first name that occurs again later in a list. -/
def repeated? : List String → Option String
  | [] => none
  | name :: rest => if rest.contains name then some name else repeated? rest

def catchClause : Parsing Piece := do
  let start ← here
  expectKeyword "catch"
  expect "("
  if ← isNext ")" then unexpected (← lookahead)
  let (param, bound) ← g.pattern none
  match repeated? (bound.map (·.text)) with
  | some name => refuseLine (.duplicateBinding name)
  | none => pure ()
  if (← context).strict && param.node.isIdentifier && param.node.head.name.any isRestricted then
    refuseLine .strictCatchVariable
  expect ")"
  let body ← block g
  finish start .catchClause (one .param param ++ one .body body)

def tryStatement : Parsing Piece := do
  let start ← here
  expectKeyword "try"
  let body ← block g
  let handler ← if ← isNextKeyword "catch" then some <$> catchClause g else pure none
  let finalizer ← if ← acceptKeyword "finally" then some <$> block g else pure none
  if handler.isNone && finalizer.isNone then refuse .noCatchOrFinally
  finish start .tryStatement
    (one .block body ++ maybe .handler handler ++ maybe .finalizer finalizer)

def keywordStatement (word : String) : Parsing Piece :=
  match word with
  | "break" => breakStatement
  | "continue" => continueStatement
  | "debugger" => debuggerStatement
  | "do" => doWhileStatement g
  | "for" => forStatement g
  | "function" => functionDeclaration g false
  | "if" => ifStatement g
  | "return" => returnStatement g
  | "switch" => switchStatement g
  | "throw" => throwStatement g
  | "try" => tryStatement g
  | "var" => variableStatement g
  | "while" => whileStatement g
  | "with" => withStatement g
  | _ => expressionStatement g

def statement : Parsing Piece := do
  let t ← lookahead
  match t.type with
  | .endOfText => unexpected t
  | .punctuator =>
    if t.text == "\x7b" then block g
    else if t.text == ";" then emptyStatement
    else expressionStatement g
  | .identifier =>
    if ← isNextAsyncFunction then functionDeclaration g false else labelledStatement g
  | .keyword => keywordStatement g t.text
  | _ => expressionStatement g

end Relabel.Source
