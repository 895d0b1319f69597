/-!
# Kinds and fields of syntax nodes

The kinds of node that occur in a program tree and the labels under which a node holds its
children. Both are open: a tree may use kinds and labels that are not in the lists below, and
these keep their own text.
-/

namespace Relabel

inductive Kind where
  | program | blockStatement | classBody | expressionStatement
  | variableDeclaration | variableDeclarator
  | functionDeclaration | functionExpression | arrowFunction
  | classDeclaration | classExpression | methodDefinition | fieldDefinition
  | returnStatement | throwStatement | ifStatement | switchStatement | switchCase
  | forStatement | forInStatement | forOfStatement | whileStatement | doWhileStatement
  | withStatement | tryStatement | catchClause | labeledStatement
  | breakStatement | continueStatement | emptyStatement | debuggerStatement
  | unaryExpression | updateExpression | awaitExpression | yieldExpression
  | spreadElement | restElement | conditionalExpression
  | assignmentExpression | assignmentPattern | binaryExpression | logicalExpression
  | callExpression | newExpression | memberExpression | chainExpression | importExpression
  | sequenceExpression
  | arrayExpression | arrayPattern | objectExpression | objectPattern | property
  | templateLiteral | templateElement | taggedTemplate | metaProperty
  | importDeclaration | importSpecifier | importDefaultSpecifier | importNamespaceSpecifier
  | exportNamedDeclaration | exportSpecifier | exportDefaultSpecifier
  | exportDefaultDeclaration | exportAllDeclaration
  | identifier | literal | thisExpression | superReference | importCall
  /-- A kind outside the list, kept with its tag. -/
  | other (tag : String)
deriving Repr, DecidableEq, Inhabited

namespace Kind

/-- The tag a kind is written with. -/
def tag : Kind → String
  | program => "Program"
  | blockStatement => "BlockStatement"
  | classBody => "ClassBody"
  | expressionStatement => "ExpressionStatement"
  | variableDeclaration => "VariableDeclaration"
  | variableDeclarator => "VariableDeclarator"
  | functionDeclaration => "FunctionDeclaration"
  | functionExpression => "FunctionExpression"
  | arrowFunction => "ArrowFunctionExpression"
  | classDeclaration => "ClassDeclaration"
  | classExpression => "ClassExpression"
  | methodDefinition => "MethodDefinition"
  | fieldDefinition => "FieldDefinition"
  | returnStatement => "ReturnStatement"
  | throwStatement => "ThrowStatement"
  | ifStatement => "IfStatement"
  | switchStatement => "SwitchStatement"
  | switchCase => "SwitchCase"
  | forStatement => "ForStatement"
  | forInStatement => "ForInStatement"
  | forOfStatement => "ForOfStatement"
  | whileStatement => "WhileStatement"
  | doWhileStatement => "DoWhileStatement"
  | withStatement => "WithStatement"
  | tryStatement => "TryStatement"
  | catchClause => "CatchClause"
  | labeledStatement => "LabeledStatement"
  | breakStatement => "BreakStatement"
  | continueStatement => "ContinueStatement"
  | emptyStatement => "EmptyStatement"
  | debuggerStatement => "DebuggerStatement"
  | unaryExpression => "UnaryExpression"
  | updateExpression => "UpdateExpression"
  | awaitExpression => "AwaitExpression"
  | yieldExpression => "YieldExpression"
  | spreadElement => "SpreadElement"
  | restElement => "RestElement"
  | conditionalExpression => "ConditionalExpression"
  | assignmentExpression => "AssignmentExpression"
  | assignmentPattern => "AssignmentPattern"
  | binaryExpression => "BinaryExpression"
  | logicalExpression => "LogicalExpression"
  | callExpression => "CallExpression"
  | newExpression => "NewExpression"
  | memberExpression => "MemberExpression"
  | chainExpression => "ChainExpression"
  | importExpression => "ImportExpression"
  | sequenceExpression => "SequenceExpression"
  | arrayExpression => "ArrayExpression"
  | arrayPattern => "ArrayPattern"
  | objectExpression => "ObjectExpression"
  | objectPattern => "ObjectPattern"
  | property => "Property"
  | templateLiteral => "TemplateLiteral"
  | templateElement => "TemplateElement"
  | taggedTemplate => "TaggedTemplateExpression"
  | metaProperty => "MetaProperty"
  | importDeclaration => "ImportDeclaration"
  | importSpecifier => "ImportSpecifier"
  | importDefaultSpecifier => "ImportDefaultSpecifier"
  | importNamespaceSpecifier => "ImportNamespaceSpecifier"
  | exportNamedDeclaration => "ExportNamedDeclaration"
  | exportSpecifier => "ExportSpecifier"
  | exportDefaultSpecifier => "ExportDefaultSpecifier"
  | exportDefaultDeclaration => "ExportDefaultDeclaration"
  | exportAllDeclaration => "ExportAllDeclaration"
  | identifier => "Identifier"
  | literal => "Literal"
  | thisExpression => "ThisExpression"
  | superReference => "Super"
  | importCall => "Import"
  | other tag => tag

/-- The listed kinds. -/
def all : List Kind :=
  [program, blockStatement, classBody, expressionStatement, variableDeclaration,
    variableDeclarator, functionDeclaration, functionExpression, arrowFunction, classDeclaration,
    classExpression, methodDefinition, fieldDefinition, returnStatement, throwStatement,
    ifStatement, switchStatement, switchCase, forStatement, forInStatement, forOfStatement,
    whileStatement, doWhileStatement, withStatement, tryStatement, catchClause, labeledStatement,
    breakStatement, continueStatement, emptyStatement, debuggerStatement, unaryExpression,
    updateExpression, awaitExpression, yieldExpression, spreadElement, restElement,
    conditionalExpression, assignmentExpression, assignmentPattern, binaryExpression,
    logicalExpression, callExpression, newExpression, memberExpression, chainExpression,
    importExpression, sequenceExpression, arrayExpression, arrayPattern, objectExpression,
    objectPattern, property, templateLiteral, templateElement, taggedTemplate, metaProperty,
    importDeclaration, importSpecifier, importDefaultSpecifier, importNamespaceSpecifier,
    exportNamedDeclaration, exportSpecifier, exportDefaultSpecifier, exportDefaultDeclaration,
    exportAllDeclaration, identifier, literal, thisExpression, superReference, importCall]

/-- The kind written with a tag: a listed one if there is one. -/
def ofTag (tag : String) : Kind :=
  (all.find? (fun kind ↦ kind.tag == tag)).getD (other tag)

end Kind

/-- The label under which a node holds a child, or a list of children. -/
inductive Field where
  | body | id | params | expression | declarations | init | superClass | key | value
  | argument | test | consequent | alternate | discriminant | cases | update | left | right
  | object | block | handler | finalizer | param | label | callee | arguments | property
  | expressions | elements | properties | quasis | tag | quasi | metaName | specifiers
  | source | localName | imported | exported | declaration
  /-- A label outside the list, kept with its text. -/
  | other (text : String)
deriving Repr, DecidableEq, Inhabited

namespace Field

def text : Field → String
  | body => "body"
  | id => "id"
  | params => "params"
  | expression => "expression"
  | declarations => "declarations"
  | init => "init"
  | superClass => "superClass"
  | key => "key"
  | value => "value"
  | argument => "argument"
  | test => "test"
  | consequent => "consequent"
  | alternate => "alternate"
  | discriminant => "discriminant"
  | cases => "cases"
  | update => "update"
  | left => "left"
  | right => "right"
  | object => "object"
  | block => "block"
  | handler => "handler"
  | finalizer => "finalizer"
  | param => "param"
  | label => "label"
  | callee => "callee"
  | arguments => "arguments"
  | property => "property"
  | expressions => "expressions"
  | elements => "elements"
  | properties => "properties"
  | quasis => "quasis"
  | tag => "tag"
  | quasi => "quasi"
  | metaName => "meta"
  | specifiers => "specifiers"
  | source => "source"
  | localName => "local"
  | imported => "imported"
  | exported => "exported"
  | declaration => "declaration"
  | other text => text

/-- The listed labels. -/
def all : List Field :=
  [body, id, params, expression, declarations, init, superClass, key, value, argument, test,
    consequent, alternate, discriminant, cases, update, left, right, object, block, handler,
    finalizer, param, label, callee, arguments, property, expressions, elements, properties,
    quasis, tag, quasi, metaName, specifiers, source, localName, imported, exported,
    declaration]

/-- The label with a text: a listed one if there is one. -/
def ofText (text : String) : Field :=
  (all.find? (fun field ↦ field.text == text)).getD (other text)

end Field

/-- The labels under which a node of a kind holds a list of children. -/
def Kind.listFields : Kind → List Field
  | program | blockStatement | classBody => [.body]
  | variableDeclaration => [.declarations]
  | functionDeclaration | functionExpression | arrowFunction => [.params]
  | switchStatement => [.cases]
  | switchCase => [.consequent]
  | callExpression | newExpression => [.arguments]
  | sequenceExpression => [.expressions]
  | arrayExpression | arrayPattern => [.elements]
  | objectExpression | objectPattern => [.properties]
  | templateLiteral => [.quasis, .expressions]
  | importDeclaration | exportNamedDeclaration => [.specifiers]
  | _ => []

/-- The kinds of statements and of what only statements hold: they are printed as statements. -/
def Kind.isStatement : Kind → Bool
  | .blockStatement | .breakStatement | .continueStatement | .classBody | .classDeclaration
  | .doWhileStatement | .catchClause | .debuggerStatement | .emptyStatement
  | .exportDefaultDeclaration | .exportNamedDeclaration | .exportAllDeclaration
  | .expressionStatement | .importDeclaration | .variableDeclarator | .variableDeclaration
  | .throwStatement | .tryStatement | .switchStatement | .switchCase | .ifStatement
  | .forStatement | .forInStatement | .forOfStatement | .labeledStatement | .program
  | .functionDeclaration | .returnStatement | .whileStatement | .withStatement => true
  | _ => false

end Relabel
