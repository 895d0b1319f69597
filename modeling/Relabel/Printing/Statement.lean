import Relabel.Printing.Expression

/-!
# Printed statements

Every statement has a line of its own and ends with a semicolon or a block. Blocks are indented;
the cases of a switch are not, but their statements are.
-/

namespace Relabel.Printing

/-- Statements on lines of their own, at the current depth. -/
def lines (statements : List Rendering) (place : StatementPlace) : Print (List String) :=
  statements.mapM fun r ↦ return (← newLine) ++ (← r.statement place)

def block (p : Parts) : Print String := do
  let texts ← indented (lines (← p.list .body) {})
  return "\x7b" ++ String.join texts ++ (← newLine) ++ "\x7d"

def classBody (p : Parts) : Print String := do
  let texts ← indented do
    let start ← newLine
    (← p.list .body).mapM fun r ↦ return start ++ (← r.expression {})
  return "\x7b" ++ String.join texts ++ (← newLine) ++ "\x7d"

def jump (p : Parts) (word : String) : Print String := do
  match ← p.child? .label with
  | some label => return word ++ " " ++ spelling label ++ ";"
  | none => return word ++ ";"

/-- The condition of a statement, in parentheses after a word. -/
def condition (p : Parts) (word : String) (field : Field) : Print String := do
  let text ← indented do (← p.child field).expression {}
  return word ++ " " ++ parenthesize text

def doWhileStatement (p : Parts) : Print String := do
  let inner ← p.child .body
  let start := join "do" (← body inner {})
  let start ← afterBody (inner.node.hasKind .blockStatement) start
  let test ← (← p.child .test).expression {}
  return join start ("while " ++ parenthesize test ++ ";")

def catchClause (p : Parts) : Print String := do
  let start ← match ← p.child? .param with
    | some param => do pure ("catch " ++ parenthesize (← indented (param.expression {})))
    | none => pure "catch"
  return start ++ (← body (← p.child .body) {})

def tryStatement (p : Parts) : Print String := do
  let inner ← p.child .block
  let start := "try" ++ (← body inner {})
  let start ← afterBody (inner.node.hasKind .blockStatement) start
  let finalizer ← p.child? .finalizer
  let caught ← match ← p.child? .handler with
    | some handler => do
      let text := join start (← handler.statement {})
      if finalizer.isSome then
        afterBody ((handler.node.child? .body).any (·.hasKind .blockStatement)) text
      else pure text
    | none => pure start
  match finalizer with
  | some finalizer => return join caught ("finally" ++ (← body finalizer {}))
  | none => return caught

def exportDefault (p : Parts) (isStatement : Node → Bool) : Print String := do
  let declaration ← p.child .declaration
  if isStatement declaration.node then return join "export default" (← declaration.statement {})
  else
    let value ← declaration.expression { level := Level.assignment }
    return join "export default" (value ++ ";")

def exportNamed (p : Parts) : Print String := do
  match ← p.child? .declaration with
  | some declaration => return join "export" (← declaration.statement {})
  | none =>
    let names ← match ← p.list .specifiers with
      | [] => pure "\x7b \x7d"
      | specifiers => spread "\x7b" "\x7d" (specifiers.map (·.expression {}))
    let start := join "export" names
    match ← p.child? .source with
    | some source => return join start ("from " ++ (← source.expression {}) ++ ";")
    | none => return start ++ ";"

def exportAll (p : Parts) : Print String := do
  return "export * from " ++ (← (← p.child .source).expression {}) ++ ";"

/-- The names of an import that stand in braces or after a star. -/
def importNames : List Rendering → Print String
  | [] => return ""
  | first :: rest => do
    if first.node.hasKind .importNamespaceSpecifier then return " " ++ (← first.expression {})
    else if rest.isEmpty then return " \x7b " ++ (← first.expression {}) ++ " \x7d "
    else
      return " " ++ (← spread "\x7b" "\x7d" ((first :: rest).map (·.expression {}))) ++ " "

def importDeclaration (p : Parts) : Print String := do
  let source ← (← p.child .source).expression {}
  match ← p.list .specifiers with
  | [] => return "import " ++ source ++ ";"
  | first :: rest =>
    let start ←
      if first.node.hasKind .importDefaultSpecifier then do
        let start := join "import" (← first.expression {})
        if rest.isEmpty then pure start else pure (start ++ "," ++ (← importNames rest))
      else do pure ("import" ++ (← importNames (first :: rest)))
    return join start ("from " ++ source ++ ";")

/-- What would be read as something else at the start of a statement. -/
def Lead.isDeceptive : Lead → Bool
  | brace | function | classWord | letIndex => true
  | letName | other => false

/-- The directive that makes code strict. -/
def strictDirective : String := "use strict"

/-- A text that is no directive, but would be the one that makes code strict. -/
def isFalseDirective (n : Node) (inner : Node) : Bool :=
  n.head.directive != some strictDirective && inner.hasKind .literal &&
    inner.head.value == some (.text strictDirective)

def expressionStatement (p : Parts) : Print String := do
  let inner ← p.child .expression
  if isFalseDirective p.node inner.node then return "'use\\x20strict';"
  else
    let text ← inner.expression {}
    return (if (← inner.lead).isDeceptive then parenthesize text else text) ++ ";"

def variableDeclarator (p : Parts) (place : StatementPlace) : Print String := do
  let inner : ExpressionPlace := { level := Level.assignment, allowIn := place.allowIn }
  let target ← (← p.child .id).expression inner
  match ← p.child? .init with
  | some init => return target ++ " = " ++ (← init.expression inner)
  | none => return target

/-- The word that introduces a declaration of variables. -/
def declarationWord (p : Parts) : Print String := do
  let word := p.node.head.variety.getD "None"
  if word == "var" || word == "let" || word == "const" then return word
  else throw (.unsupportedVariety word)

def variableDeclaration (p : Parts) (place : StatementPlace) : Print String := do
  let word ← declarationWord p
  let declarators ← p.list .declarations
  let texts := declarators.mapM (·.statement { allowIn := place.allowIn })
  let texts ← if 1 < declarators.length then indented texts else texts
  return word ++ " " ++ commaList texts ++ ";"

/-- A value after the word that gives it away. -/
def passing (word : String) (value : Rendering) : Print String := do
  return join word (unbroken (← value.expression {})) ++ ";"

def returnStatement (p : Parts) : Print String := do
  match ← p.child? .argument with
  | some argument => passing "return" argument
  | none => return "return;"

def switchStatement (p : Parts) : Print String := do
  let start ← condition p "switch" .discriminant
  let texts ← lines (← p.list .cases) {}
  return start ++ " \x7b" ++ String.join texts ++ (← newLine) ++ "\x7d"

/-- A block at the start of a case stays on the line of the case. -/
def switchCase (p : Parts) : Print String := indented do
  let start ← match ← p.child? .test with
    | some test => do pure (join "case" (← test.expression {}) ++ ":")
    | none => pure "default:"
  match ← p.list .consequent with
  | [] => return start
  | first :: rest =>
    if first.node.hasKind .blockStatement then
      return start ++ (← body first {}) ++ String.join (← lines rest {})
    else return start ++ String.join (← lines (first :: rest) {})

/-- Whether a statement ends in an `if` without `else`, to which a following `else` would go. -/
def endsInBareIf : Node → Bool :=
  Node.fold fun n results ↦
    let under (field : Field) : Option Bool :=
      (results.find? fun branch ↦ branch.1 = field).bind Prod.snd
    match n.kind with
    | some .ifStatement => (under .alternate).getD true
    | some .forStatement | some .forInStatement | some .forOfStatement | some .whileStatement
    | some .withStatement | some .labeledStatement => (under .body).getD false
    | _ => false

/-- A statement put into a block of its own. -/
def blocked (r : Rendering) : Print String := do
  let inner ← indented do return (← newLine) ++ (← r.statement {})
  return " \x7b" ++ inner ++ (← newLine) ++ "\x7d"

def ifStatement (p : Parts) : Print String := do
  let start ← condition p "if" .test
  let yes ← p.child .consequent
  match ← p.child? .alternate with
  | none => return start ++ (← body yes {})
  | some no =>
    let bare := endsInBareIf yes.node
    let inner ← if bare then blocked yes else body yes {}
    let start ← afterBody (bare || yes.node.hasKind .blockStatement) (start ++ inner)
    if no.node.hasKind .ifStatement then return join start ("else " ++ (← no.statement {}))
    else return join start (join "else" (← body no {}))

def forStatement (p : Parts) : Print String := do
  let head ← indented do
    let init ← match ← p.child? .init with
      | some init =>
        if init.node.hasKind .variableDeclaration then init.statement { allowIn := false }
        else do
          let text ← init.expression { allowIn := false }
          pure ((if (← init.lead) = .letIndex then parenthesize text else text) ++ ";")
      | none => pure ";"
    let test ← match ← p.child? .test with
      | some test => do pure (" " ++ (← test.expression {}) ++ ";")
      | none => pure ";"
    let update ← match ← p.child? .update with
      | some update => do pure (" " ++ (← update.expression {}))
      | none => pure ""
    pure (init ++ test ++ update)
  return "for " ++ parenthesize head ++ (← body (← p.child .body) {})

/-- The target of a loop: of a declaration, only the first declarator counts. -/
def loopTarget (p : Parts) (asExpression : Print String) : Print String := do
  if p.node.hasKind .variableDeclaration then
    let word ← declarationWord p
    let target ← match ← p.list .declarations with
      | first :: _ => indented (first.statement { allowIn := false })
      | [] => pure ""
    return word ++ " " ++ target
  else asExpression

/-- A loop over keys or values. A target that starts with `let` would be read as a declaration where
`of` follows. -/
def loopOver (p : Parts) (word : String) : Print String := do
  let head ← indented do
    let left ← p.child .left
    let target ← left.loopTarget
    let lead ← left.lead
    let isHidden := word == "of" && (lead = .letName || lead = .letIndex)
    let target := if isHidden then parenthesize target else target
    let source ← (← p.child .right).expression { level := Level.assignment }
    let start := if p.node.head.isWaiting then "for await (" else "for ("
    pure (join (join (start ++ target) word) source)
  return head ++ ")" ++ (← body (← p.child .body) {})

def labeled (p : Parts) : Print String := do
  return spelling (← p.child .label) ++ ":" ++ (← body (← p.child .body) {})

def program (p : Parts) : Print String := do
  let start ← base
  let texts ← (← p.list .body).mapM fun r ↦ return start ++ (← r.statement {})
  return "\n".intercalate texts

def isStatement (n : Node) : Bool :=
  n.kind.any Kind.isStatement

/-! ## All statements -/

def statement (p : Parts) (place : StatementPlace) : Print String :=
  match p.node.kind with
  | some .blockStatement => block p
  | some .breakStatement => jump p "break"
  | some .continueStatement => jump p "continue"
  | some .classBody => classBody p
  | some .classDeclaration => classText p
  | some .doWhileStatement => doWhileStatement p
  | some .catchClause => catchClause p
  | some .debuggerStatement => return "debugger;"
  | some .emptyStatement => return ";"
  | some .exportDefaultDeclaration => exportDefault p isStatement
  | some .exportNamedDeclaration => exportNamed p
  | some .exportAllDeclaration => exportAll p
  | some .expressionStatement => expressionStatement p
  | some .importDeclaration => importDeclaration p
  | some .variableDeclarator => variableDeclarator p place
  | some .variableDeclaration => variableDeclaration p place
  | some .throwStatement => do passing "throw" (← p.child .argument)
  | some .returnStatement => returnStatement p
  | some .tryStatement => tryStatement p
  | some .switchStatement => switchStatement p
  | some .switchCase => switchCase p
  | some .ifStatement => ifStatement p
  | some .forStatement => forStatement p
  | some .forInStatement => loopOver p "in"
  | some .forOfStatement => loopOver p "of"
  | some .whileStatement => do
    return (← condition p "while" .test) ++ (← body (← p.child .body) {})
  | some .withStatement => do
    return (← condition p "with" .object) ++ (← body (← p.child .body) {})
  | some .labeledStatement => labeled p
  | some .functionDeclaration => functionText p
  | some .program => program p
  | kind => throw (.unsupportedStatement (kindText kind))

end Relabel.Printing
