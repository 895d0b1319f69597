import Relabel.Source.Statement

/-!
# Imports and exports
-/

namespace Relabel.Source

variable (g : Grammar)

/-- The name of a module. -/
def moduleName : Parsing Term := do
  let start ← here
  unless (← lookahead).type == .text do refuse .bareToken
  let t ← advance
  literalNode start t.value

/-- The word `from` and the name of a module. What stands in the place of the word is named, unless
it says nothing. -/
def fromModule : Parsing Term := do
  let t ← lookahead
  unless t.isWord "from" do
    refuse (if t.isVoid then .bareToken else .unexpectedToken t.text)
  let _ ← advance
  moduleName

/-- One imported name. Without a name of its own it is bound under the name it is imported by. -/
def importSpecifier : Parsing Piece := do
  let start ← here
  let isPlain := (← lookahead).type == .identifier
  let imported ← if isPlain then boundName none else propertyName
  let bound ← if ← isNextWord "as" then do
      let _ ← advance
      boundName none
    else if isPlain then pure imported
    else unexpected (← advance)
  finish start .importSpecifier (one .localName bound ++ one .imported imported)

def namedImports : Parsing (List Piece) := do
  expect "\x7b"
  let found ← commaItems "\x7d" importSpecifier
  expect "\x7d"
  return found

def namespaceImport : Parsing Piece := do
  let start ← here
  expect "*"
  unless ← isNextWord "as" do refuse .bareToken
  let _ ← advance
  let name ← propertyName
  finish start .importNamespaceSpecifier (one .localName name)

def defaultImport : Parsing Piece := do
  let start ← here
  let name ← propertyName
  finish start .importDefaultSpecifier (one .localName name)

def importSpecifiers : Parsing (List Piece) := do
  let t ← lookahead
  if t.isMark "\x7b" then namedImports
  else if t.isMark "*" then return [← namespaceImport]
  else if t.isName && !t.isKeyword "default" then
    let first ← defaultImport
    if ← accept "," then
      let t ← lookahead
      if t.isMark "*" then return [first, ← namespaceImport]
      else if t.isMark "\x7b" then return first :: (← namedImports)
      else unexpected t
    else return [first]
  else unexpected (← advance)

def importDeclaration : Parsing Piece := do
  if (← context).inFunction then refuse .bareToken
  let start ← here
  expectKeyword "import"
  let (specifiers, source) ← if (← lookahead).type == .text then do
      pure ([], ← moduleName)
    else do
      let specifiers ← importSpecifiers
      pure (specifiers, ← fromModule)
  endStatement
  finish start .importDeclaration (many .specifiers specifiers ++ one .source source)

/-- One exported name. Without a name of its own it is exported under its own name. -/
def exportSpecifier : Parsing Piece := do
  let start ← here
  let inner ← propertyName
  let outer ← if ← isNextWord "as" then do
      let _ ← advance
      propertyName
    else pure inner
  finish start .exportSpecifier (one .exported outer ++ one .localName inner)

def exportDefault (start : Marker) : Parsing Piece := do
  let node (declaration : Piece) : Parsing Piece :=
    finish start .exportDefaultDeclaration (one .declaration declaration)
  if ← isNextKeyword "function" then node (← functionDeclaration g true)
  else if ← isNextKeyword "class" then node (← classDeclaration g true)
  else if ← isNextWord "async" then
    node (← if ← isNextAsyncFunction then functionDeclaration g true else g.assignment)
  else
    if ← isNextWord "from" then refuse (.unexpectedToken "from")
    let value ← if ← isNext "\x7b" then object g
      else if ← isNext "[" then array g
      else g.assignment
    endStatement
    node value

def exportAll (start : Marker) : Parsing Piece := do
  let source ← fromModule
  endStatement
  finish start .exportAllDeclaration (one .source source)

/-- A declaration that is exported. -/
def exportedDeclaration : Parsing Piece := do
  let t ← lookahead
  if t.text == "let" || t.text == "const" then lexicalDeclaration g
  else if t.text == "var" || t.text == "class" || t.text == "function" then g.item
  else unexpected t

/-- The name under which the default of another module is exported. -/
def exportDefaultSpecifier : Parsing Piece := do
  let start ← here
  let name ← propertyName
  finish start .exportDefaultSpecifier (one .localName name)

/-- Exported names in braces, each with whether it is `default`. -/
def bracedExports : Parsing (List (Piece × Bool)) := do
  expect "\x7b"
  let found ← commaItems "\x7d" do
    let isDefault ← isNextKeyword "default"
    return (← exportSpecifier, isDefault)
  expect "\x7d"
  return found

/-- Exported names: one without braces, some in braces, or both. The name `default` is among them
only if they come from another module. -/
def exportNames (start : Marker) : Parsing Piece := do
  let bare ← if (← lookahead).type == .identifier then
      (fun n ↦ [n]) <$> exportDefaultSpecifier
    else pure []
  let braced ← if bare.isEmpty || (← accept ",") then bracedExports else pure []
  let source ← if (← isNextWord "from") || braced.any (·.2) then some <$> fromModule else pure none
  endStatement
  finish start .exportNamedDeclaration
    (many .specifiers (bare ++ braced.map (·.1)) ++ maybe .source source)

def exportDeclaration : Parsing Piece := do
  if (← context).inFunction then refuse .bareToken
  let start ← here
  expectKeyword "export"
  let named (declaration : Piece) : Parsing Piece :=
    finish start .exportNamedDeclaration (one .declaration declaration)
  if ← acceptKeyword "default" then exportDefault g start
  else if ← accept "*" then exportAll start
  else if (← lookahead).type == .keyword then named (← exportedDeclaration g)
  else if ← isNextAsyncFunction then named (← functionDeclaration g false)
  else exportNames start

def item : Parsing Piece := do
  modifyContext ({ · with isTarget := true, isBinding := true })
  let t ← lookahead
  if t.type != .keyword then statement g
  else match t.text with
    | "export" =>
      unless (← context).isModule do refuseToken t .bareToken
      exportDeclaration g
    | "import" =>
      if (← secondToken).isMark "(" then expressionStatement g
      else
        unless (← context).isModule do refuseToken t .bareToken
        importDeclaration
    | "const" => lexicalDeclaration g
    | "function" => functionDeclaration g false
    | "class" => classDeclaration g false
    | "let" => if ← isLexicalNext then lexicalDeclaration g else statement g
    | _ => statement g

end Relabel.Source
