import Relabel.Printing.Layout

/-!
# Printed expressions

Expressions and patterns are printed with the fewest parentheses. Arrays and objects of two or more
items take one line for each item.
-/

namespace Relabel.Printing

/-- Items on lines of their own, between brackets. -/
def spread (opening closing : String) (items : List (Print String)) : Print String := do
  let lines ← indented do
    let start ← newLine
    let texts ← items.mapM fun item ↦ return start ++ (← item)
    return ",".intercalate texts
  return opening ++ lines ++ (← newLine) ++ closing

def assignment (left right : Rendering) (operator : String) (place : ExpressionPlace) :
    Print String := do
  let inner := place.inside Level.assignment
  let target ← left.expression { inner with level := Level.call }
  let value ← right.expression { inner with level := Level.assignment }
  return atLevel Level.assignment place (target ++ " " ++ operator ++ " " ++ value)

def sequence (p : Parts) (place : ExpressionPlace) : Print String := do
  let inner := { place.inside Level.sequence with level := Level.assignment }
  let texts ← (← p.list .expressions).mapM (·.expression inner)
  return atLevel Level.sequence place (commaList texts)

def conditional (p : Parts) (place : ExpressionPlace) : Print String := do
  let inner := place.inside Level.conditional
  let test ← (← p.child .test).expression { inner with level := Level.coalesce }
  let yes ← (← p.child .consequent).expression { inner with level := Level.assignment }
  let no ← (← p.child .alternate).expression { inner with level := Level.assignment }
  return atLevel Level.conditional place (test ++ " ? " ++ yes ++ " : " ++ no)

/-- An operator and its right operand must not start a comment. -/
def startsComment (operator right : String) : Bool :=
  (operator == "/" && right.startsWith "/") ||
    (operator.endsWith "<" && right.startsWith "!--")

def binary (p : Parts) (place : ExpressionPlace) : Print String := do
  let some level := Level.ofOperator? p.operator
    | throw (.unsupportedOperator (p.node.head.operator.getD "None"))
  let place := { place with inCoalesce := place.inCoalesce || p.operator == "??" }
  let inner := place.inside level
  let isPower := p.operator == "**"
  let left ← (← p.child .left).expression
    { inner with level := if isPower then Level.update else level }
  let right ← (← p.child .right).expression
    { inner with level := if isPower then level else level + 1 }
  let start := join left p.operator
  let text := if startsComment p.operator right then start ++ " " ++ right else join start right
  if p.operator == "in" && !inner.allowIn then return parenthesize text
  else if (p.operator == "||" || p.operator == "&&") && inner.inCoalesce then
    return parenthesize text
  else return atLevel level place text

/-- The arguments of a call, in parentheses. -/
def arguments (p : Parts) : Print String := do
  let texts ← (← p.list .arguments).mapM (·.expression { level := Level.assignment })
  return parenthesize (commaList texts)

def call (p : Parts) (place : ExpressionPlace) : Print String := do
  let callee ← (← p.child .callee).expression { level := Level.call }
  let mark := if p.node.head.isOptional then "?." else ""
  let text := callee ++ mark ++ (← arguments p)
  return if place.allowCall then atLevel Level.call place text else parenthesize text

def new (p : Parts) (place : ExpressionPlace) : Print String := do
  let _ ← p.list .arguments
  let callee ← (← p.child .callee).expression { level := Level.new, allowCall := false }
  return atLevel Level.new place (join "new" callee ++ (← arguments p))

def member (p : Parts) (place : ExpressionPlace) : Print String := do
  let object ← p.child .object
  let start ← object.expression { level := Level.call, allowCall := place.allowCall }
  let property ← p.child .property
  let isOptional := p.node.head.isOptional
  if p.node.head.computed then
    let index ← property.expression { allowCall := place.allowCall }
    let mark := if isOptional then "?." else ""
    return atLevel Level.member place (start ++ mark ++ "[" ++ index ++ "]")
  else
    let isNumber := object.node.hasKind .literal && match object.node.head.value with
      | some (.number _) => true
      | _ => false
    let mark := if isOptional then "?."
      else if isNumber && needsBlankBeforePoint start then " ."
      else "."
    return atLevel Level.member place (start ++ mark ++ (← nameOf property))

def chain (p : Parts) (place : ExpressionPlace) : Print String := do
  let isInside := Level.chain < place.level
  let text ← (← p.child .expression).expression
    { place with allowCall := place.allowCall || isInside }
  return atLevel Level.chain place text

def importExpression (p : Parts) (place : ExpressionPlace) : Print String := do
  let source ← (← p.child .source).expression { level := Level.assignment }
  return atLevel Level.call place ("import" ++ parenthesize source)

def metaProperty (p : Parts) (place : ExpressionPlace) : Print String := do
  let first ← nameOf (← p.child .metaName)
  let second ← nameOf (← p.child .property)
  return atLevel Level.member place (first ++ "." ++ second)

def unary (p : Parts) (place : ExpressionPlace) : Print String := do
  let operand ← (← p.child .argument).expression { level := Level.unary }
  let operator := p.operator
  let text :=
    if 2 < operator.length then join operator operand
    else match operator.toList.getLast?, operand.toList.head? with
      | some a, some b =>
        if runTogether a b then operator ++ " " ++ operand else operator ++ operand
      | _, _ => operator ++ operand
  return atLevel Level.unary place text

def update (p : Parts) (place : ExpressionPlace) : Print String := do
  let operand ← p.child .argument
  if p.node.head.before then
    let text ← operand.expression { level := Level.unary }
    return atLevel Level.unary place (p.operator ++ text)
  else
    let text ← operand.expression { level := Level.update }
    return atLevel Level.update place (unbroken text ++ p.operator)

def yield (p : Parts) (place : ExpressionPlace) : Print String := do
  let word := if p.node.head.delegate then "yield*" else "yield"
  let text ← match ← p.child? .argument with
    | some argument => do
      let value ← argument.expression { level := Level.assignment }
      pure (join word (unbroken value))
    | none => pure word
  return atLevel Level.assignment place text

def await (p : Parts) (place : ExpressionPlace) : Print String := do
  let value ← (← p.child .argument).expression { level := Level.unary }
  return atLevel Level.unary place (join "await" value)

def asyncWord (n : Node) : String :=
  if n.head.isAsync then "async " else ""

/-- The parameters of a function; a single plain parameter of an arrow function stands bare. -/
def parameters (p : Parts) : Print String := do
  let isArrow := p.node.hasKind .arrowFunction
  let lead := if isArrow then asyncWord p.node else ""
  match isArrow, ← p.list .params with
  | true, [only] =>
    if only.node.hasKind .identifier then return lead ++ (← nameOf only)
    else return lead ++ parenthesize (← only.expression { level := Level.assignment })
  | _, params =>
    let texts ← params.mapM (·.expression { level := Level.assignment })
    return lead ++ parenthesize (commaList texts)

/-- The parameters and the body of a function. -/
def callable (p : Parts) : Print String := do
  let params ← parameters p
  let start := if p.node.hasKind .arrowFunction then params ++ " =>" else params
  let inner ← p.child .body
  if p.node.head.concise then
    let value ← inner.expression { level := Level.assignment }
    let value := if value.startsWith "\x7b" then parenthesize value else value
    return start ++ " " ++ value
  else return start ++ (← body inner {})

/-- A function with its word and its name. -/
def functionText (p : Parts) : Print String := do
  let star := if p.node.head.generator then "* " else " "
  let name ← match ← p.child? .id with
    | some id => nameOf id
    | none => pure ""
  return asyncWord p.node ++ "function" ++ star ++ name ++ (← callable p)

def arrowFunction (p : Parts) (place : ExpressionPlace) : Print String := do
  return atLevel Level.conditional place (← callable p)

/-- The head and body of a class. -/
def classText (p : Parts) : Print String := do
  let name ← match ← p.child? .id with
    | some id => id.expression {}
    | none => pure ""
  let parent ← match ← p.child? .superClass with
    | some parent => do pure (join "extends" (← parent.expression { level := Level.unary }))
    | none => pure ""
  return join (join "class" name) parent ++ " " ++ (← (← p.child .body).statement {})

/-! ## Properties and methods -/

def propertyKey (p : Parts) : Print String := do
  let key ← (← p.child .key).expression { level := Level.assignment }
  return if p.node.head.computed then "[" ++ key ++ "]" else key

/-- A property or method that is a function: marks, key, parameters and body. -/
def methodText (p : Parts) : Print String := do
  let value ← p.child .value
  let star := if value.node.head.generator then "*" else ""
  return asyncWord value.node ++ star ++ (← propertyKey p) ++ (← value.callable)

/-- The word before the key of an accessor. -/
def accessorWord? (n : Node) : Option String :=
  n.head.variety.filter fun word ↦ word == "get" || word == "set"

def accessorText (p : Parts) (word : String) : Print String := do
  return join word (← propertyKey p) ++ (← (← p.child .value).callable)

def methodDefinition (p : Parts) : Print String := do
  let text ← match accessorWord? p.node with
    | some word => accessorText p word
    | none => methodText p
  return if p.node.head.isStatic then join "static " text else text

def fieldDefinition (p : Parts) : Print String := do
  let key ← propertyKey p
  let value ← match ← p.child? .value with
    | some value => do pure (" = " ++ (← value.expression { level := Level.assignment }))
    | none => pure ""
  let text := key ++ value ++ ";"
  return if p.node.head.isStatic then join "static " text else text

def property (p : Parts) : Print String := do
  match accessorWord? p.node with
  | some word => accessorText p word
  | none =>
    if p.node.head.shorthand then
      let value ← p.child .value
      if value.node.hasKind .assignmentPattern then value.expression {} else propertyKey p
    else if p.node.head.isMethod then methodText p
    else
      let key ← propertyKey p
      return key ++ ": " ++ (← (← p.child .value).expression { level := Level.assignment })

/-- An item of an array; a gap at the end needs its own comma. -/
def arrayItem (isLast : Bool) : Option Rendering → Print String
  | some r => r.expression { level := Level.assignment }
  | none => return if isLast then "," else ""

def arrayItems : List (Option Rendering) → List (Print String)
  | [] => []
  | item :: rest => arrayItem rest.isEmpty item :: arrayItems rest

def array (p : Parts) : Print String := do
  let items ← p.items .elements
  if items.isEmpty then return "[]"
  else if items.length = 1 then
    let texts ← indented ((arrayItems items).mapM fun item ↦ item)
    return "[" ++ commaList texts ++ "]"
  else spread "[" "]" (arrayItems items)

def arrayPattern (p : Parts) : Print String := do
  let texts ← indented ((arrayItems (← p.items .elements)).mapM fun item ↦ item)
  return "[" ++ commaList texts ++ "]"

def object (p : Parts) : Print String := do
  match ← p.list .properties with
  | [] => return "\x7b\x7d"
  | [only] =>
    let text ← indented (only.expression {})
    if hasLineEnd text then spread "\x7b" "\x7d" [return text]
    else return "\x7b " ++ text ++ " \x7d"
  | properties => spread "\x7b" "\x7d" (properties.map (·.expression {}))

/-- Whether the properties of an object pattern go on lines of their own. -/
def isSpreadPattern : List Rendering → Bool
  | [only] =>
    only.node.hasKind .property &&
      !((only.node.child? .value).any (·.hasKind .identifier))
  | properties => properties.any fun r ↦ r.node.hasKind .property && !r.node.head.shorthand

def objectPattern (p : Parts) : Print String := do
  let properties ← p.list .properties
  let items := properties.map (·.expression {})
  if isSpreadPattern properties then spread "\x7b" "\x7d" items
  else
    let texts ← indented (items.mapM fun item ↦ item)
    return "\x7b" ++ commaList texts ++ "\x7d"

/-- The texts of a template with the expressions between them. -/
def templateChunks : List String → List String → String
  | [], _ => ""
  | [last], _ => last
  | chunk :: chunks, value :: values =>
    chunk ++ "$\x7b " ++ value ++ " \x7d" ++ templateChunks chunks values
  | chunk :: chunks, [] => chunk ++ templateChunks chunks []

def template (p : Parts) : Print String := do
  let chunks := (← p.list .quasis).map fun r ↦ r.node.head.raw.getD ""
  let values ← (← p.list .expressions).mapM (·.expression {})
  return "\x60" ++ templateChunks chunks values ++ "\x60"

def taggedTemplate (p : Parts) (place : ExpressionPlace) : Print String := do
  let tag ← (← p.child .tag).expression { level := Level.call, allowCall := place.allowCall }
  let quasi ← (← p.child .quasi).expression { level := Level.primary }
  return atLevel Level.taggedTemplate place (tag ++ quasi)

/-- A name and the name it is known by, which is left out if it is the same. -/
def specifier (p : Parts) (outer inner : Field) : Print String := do
  let first := spelling (← p.child outer)
  match ← p.child? inner with
  | some r =>
    if spelling r == first then return first else return first ++ " as " ++ (← nameOf r)
  | none => return first

/-- A literal. A negative number binds like one with a sign before it. -/
def literalText (p : Parts) (place : ExpressionPlace) : Print String := do
  match p.node.head.value with
  | none => throw .missingValue
  | some value =>
    let text ← (literal value : Except PrintFault String)
    match value with
    | .number n => return if isNegative n then atLevel Level.unary place text else text
    | _ => return text

/-- What is left of a start when something follows: the name `let` is no longer alone. -/
def Lead.followed : Lead → Lead
  | letName => other
  | lead => lead

/-- What the text of an expression starts with. Parentheses that binding asks for are left aside;
those around an operand of several lines are not, and functions and classes take several lines. -/
def lead (p : Parts) : Print Lead := do
  let under (field : Field) : Print Lead := do
    match (p.branches.find? fun branch ↦ branch.1 = field).bind (·.2) with
    | some r => r.lead
    | none => return .other
  match p.node.kind with
  | some .objectExpression | some .objectPattern => return .brace
  | some .functionExpression => return .function
  | some .classExpression => return .classWord
  | some .identifier => return if p.node.head.name == some "let" then .letName else .other
  | some .memberExpression =>
    match ← under .object with
    | .letName => return if p.node.head.computed then .letIndex else .other
    | lead => return lead
  | some .callExpression => Lead.followed <$> under .callee
  | some .taggedTemplate => Lead.followed <$> under .tag
  | some .chainExpression => under .expression
  | some .binaryExpression | some .logicalExpression | some .assignmentExpression =>
    Lead.followed <$> under .left
  | some .conditionalExpression => Lead.followed <$> under .test
  | some .sequenceExpression => Lead.followed <$> under .expressions
  | some .updateExpression =>
    if p.node.head.before then return .other
    match ← under .argument with
    | .brace =>
      let text ← (← p.child .argument).expression { level := Level.update }
      return if hasLineEnd text then .other else .brace
    | .letIndex => return .letIndex
    | _ => return .other
  | _ => return .other

def expression (p : Parts) (place : ExpressionPlace) : Print String :=
  match p.node.kind with
  | some .sequenceExpression => sequence p place
  | some .assignmentExpression => do
    assignment (← p.child .left) (← p.child .right) p.operator place
  | some .assignmentPattern => do
    assignment (← p.child .left) (← p.child .right) "=" place
  | some .arrowFunction => arrowFunction p place
  | some .conditionalExpression => conditional p place
  | some .logicalExpression | some .binaryExpression => binary p place
  | some .callExpression => call p place
  | some .newExpression => new p place
  | some .memberExpression => member p place
  | some .chainExpression => chain p place
  | some .importExpression => importExpression p place
  | some .metaProperty => metaProperty p place
  | some .unaryExpression => unary p place
  | some .updateExpression => update p place
  | some .yieldExpression => yield p place
  | some .awaitExpression => await p place
  | some .functionExpression => functionText p
  | some .classExpression => classText p
  | some .methodDefinition => methodDefinition p
  | some .fieldDefinition => fieldDefinition p
  | some .property => property p
  | some .arrayExpression => array p
  | some .arrayPattern => arrayPattern p
  | some .objectExpression => object p
  | some .objectPattern => objectPattern p
  | some .restElement | some .spreadElement => do
    return "..." ++ (← (← p.child .argument).expression { level := Level.assignment })
  | some .thisExpression => return "this"
  | some .superReference => return "super"
  | some .identifier => (name p.node : Except PrintFault String)
  | some .literal => literalText p place
  | some .templateLiteral => template p
  | some .templateElement => return p.node.head.raw.getD ""
  | some .taggedTemplate => taggedTemplate p place
  | some .importDefaultSpecifier => do nameOf (← p.child .localName)
  | some .importNamespaceSpecifier => do return "* as " ++ (← nameOf (← p.child .localName))
  | some .importSpecifier => specifier p .imported .localName
  | some .exportSpecifier => specifier p .localName .exported
  | kind => throw (.unsupportedExpression (kindText kind))

end Relabel.Printing
