import Relabel.Source.Function

/-!
# Properties of objects and elements of classes
-/

namespace Relabel.Source

variable (g : Grammar)

/-- The start of a property: its key, unless a generator's mark comes first, whether the key is
computed, and whether the word `async` stands before it. -/
def propertyStart (start : Marker) (t : Token) : Parsing (Option Term × Bool × Bool) := do
  if t.type == .identifier then
    let _ ← advance
    let computed ← isNext "["
    let isAsync := t.text == "async" && !(← lineEnded) && !(← isNextOf [":", "(", "*", ","])
    let key ← if isAsync then propertyKey g else identifierNode start t.text
    return (some key, computed, isAsync)
  else if ← accept "*" then return (none, false, false)
  else
    let computed ← isNext "["
    return (some (← propertyKey g), computed, false)

def propertyNode (start : Marker) (variety : String) (key value : Term)
    (computed isMethod : Bool) : Parsing Term :=
  finishTerm start .property (one .key key ++ one .value value)
    ({ · with variety := some variety, computed, isMethod })

/-- A property whose key follows a word or a mark that says what its function is. -/
def markedProperty (start : Marker) (variety : String) (method : Method) : Parsing Term := do
  let computed ← isNext "["
  let key ← propertyKey g
  if method == .getter then modifyContext ({ · with allowYield := false })
  let value ← methodFunction g method
  propertyNode start variety key value computed (method == .generator)

/-- A property that stands for a name: possibly with a default, which only a pattern may have. -/
def shorthandProperty (start : Marker) (t : Token) (key : Term) (computed : Bool) :
    Parsing Term := do
  let target ← identifierNode start t.text
  let mark ← lookahead
  if mark.isMark "=" then
    modifyContext ({ · with patternDefault := some mark })
    let _ ← advance
    let right ← isolate g.assignment
    let value ← finishTerm start .assignmentPattern (one .left target ++ one .right right)
    finishShorthand start key value computed
  else finishShorthand start key target computed

/-- A property of an object; says also whether it sets the prototype, which only one may. -/
def objectProperty (hasProto : Bool) : Parsing (Term × Bool) := do
  let start ← here
  let t ← lookahead
  let (key?, computed, isAsync) ← propertyStart g start t
  let keyFollows := (← lookahead).startsKey
  if t.isWord "get" && keyFollows then return (← markedProperty g start "get" .getter, false)
  else if t.isWord "set" && keyFollows then return (← markedProperty g start "set" .setter, false)
  else if t.isMark "*" && keyFollows then
    return (← markedProperty g start "init" .generator, false)
  let some key := key? | unexpected (← lookahead)
  if !isAsync && (← isNext ":") then
    let isProto := !computed && isKeyOf key "__proto__"
    if isProto && hasProto then refuseLine .duplicateProto
    let _ ← advance
    let value ← inherit g.assignment
    return (← propertyNode start "init" key value computed false, isProto)
  else if ← isNext "(" then
    let value ← methodFunction g (if isAsync then .async else .plain)
    return (← propertyNode start "init" key value computed true, false)
  else if t.type == .identifier then return (← shorthandProperty g start t key computed, false)
  else unexpected (← advance)

/-- What follows three points: all items of a value. -/
def spread : Parsing Term := do
  let start ← here
  expect "..."
  let value ← inherit g.assignment
  finishTerm start .spreadElement (one .argument value)

def propertiesFor : Nat → Bool → List Term → Parsing (List Term)
  | 0, _, found => return found.reverse
  | fuel + 1, hasProto, found => do
    if ← isNext "\x7d" then return found.reverse
    let (property, isProto) ← if ← isNext "..." then do pure (← spread g, false)
      else objectProperty g hasProto
    unless ← isNext "\x7d" do expect ","
    propertiesFor fuel (hasProto || isProto) (property :: found)

def object : Parsing Term := do
  let start ← here
  expect "\x7b"
  let properties ← propertiesFor g ((← get).scan.text.size + 2) false []
  expect "\x7d"
  finishTerm start .objectExpression (manyTerms .properties properties)

/-- How an element of a class starts. -/
structure ElementStart where
  /-- The token that says what the element is. -/
  token : Token
  key : Option Piece := none
  computed : Bool := false
  isStatic : Bool := false
  isAsync : Bool := false

/-- The key after the word `static`, if that is not the key itself. -/
def afterStatic (e : ElementStart) : Parsing ElementStart := do
  let t ← lookahead
  if (e.key.bind (·.node.head.name)) == some "static" && (t.startsKey || t.isMark "*") then
    let e := { e with token := t, isStatic := true, computed := t.isMark "[" }
    if ← accept "*" then return e
    return { e with key := some (← propertyKey g) }
  return e

/-- The key after the word `async`, if that is not the key itself. -/
def afterAsync (e : ElementStart) : Parsing ElementStart := do
  let t ← lookahead
  if e.token.isWord "async" && !(← lineEnded) && !([":", "(", "*"].contains t.text) then
    let key ← propertyKey g
    if t.isWord "constructor" then refuseToken t .constructorIsAsync
    return { e with token := t, isAsync := true, key := some key }
  return e

def elementStart : Parsing ElementStart := do
  let t ← lookahead
  if ← accept "*" then return { token := t }
  let computed := t.isMark "["
  let key ← propertyKey g
  afterAsync g (← afterStatic g { token := t, key := some key, computed })

/-- What an element of a class turns out to be. -/
structure Element where
  variety : String
  key : Piece
  computed : Bool
  value : Piece

def markedElement (variety : String) (method : Method) : Parsing Element := do
  let computed ← isNext "["
  let key ← propertyKey g
  if method == .getter then modifyContext ({ · with allowYield := false })
  return { variety, key, computed, value := ← methodFunction g method }

def elementRest (e : ElementStart) : Parsing Element := do
  let keyFollows := (← lookahead).startsKey
  if e.token.isWord "get" && keyFollows then markedElement g "get" .getter
  else if e.token.isWord "set" && keyFollows then markedElement g "set" .setter
  else if e.token.isMark "*" && keyFollows then markedElement g "method" .generator
  else
    match e.key with
    | some key =>
      if ← isNext "(" then
        let value ← methodFunction g (if e.isAsync then .async else .plain)
        return { variety := "method", key, computed := e.computed, value }
      unexpected (← lookahead)
    | none => unexpected (← lookahead)

/-- An element of a class; says also whether it is the constructor, which only one may be. -/
def classElement (hasConstructor : Bool) : Parsing (Piece × Bool) := do
  let start ← here
  let e ← elementStart g
  let element ← elementRest g e
  let named (name : String) : Bool := !element.computed && isKeyOf element.key name
  if e.isStatic && named "prototype" then refuseToken e.token .staticPrototype
  let isConstructor := !e.isStatic && named "constructor"
  if isConstructor then
    if element.variety != "method" || element.value.node.head.generator then
      refuseToken e.token .constructorIsAccessor
    if hasConstructor then refuseToken e.token .duplicateConstructor
  let variety := if isConstructor then "constructor" else element.variety
  let node ← finish start .methodDefinition (one .key element.key ++ one .value element.value)
    ({ · with variety := some variety, computed := element.computed, isStatic := e.isStatic })
  return (node, isConstructor)

def elementsFor : Nat → Bool → List Piece → Parsing (List Piece)
  | 0, _, found => return found.reverse
  | fuel + 1, hasConstructor, found => do
    if ← isNext "\x7d" then return found.reverse
    else if ← accept ";" then elementsFor fuel hasConstructor found
    else
      let (element, isConstructor) ← classElement g hasConstructor
      elementsFor fuel (hasConstructor || isConstructor) (element :: found)

def classBody : Parsing Piece := do
  let start ← here
  expect "\x7b"
  let elements ← elementsFor g ((← get).scan.text.size + 2) false []
  expect "\x7d"
  finish start .classBody (many .body elements)

/-- The parts of a class, all of which is strict code. -/
def classParts (nameIsOptional : Bool) : Parsing Branches := do
  let outer ← context
  modifyContext ({ · with strict := true })
  expectKeyword "class"
  let id ← if nameIsOptional && (← lookahead).type != .identifier then pure none
    else some <$> boundName none
  let parent ← if ← acceptKeyword "extends" then some <$> isolate g.call else pure none
  let body ← classBody g
  modifyContext ({ · with strict := outer.strict })
  return maybe .id id ++ maybe .superClass parent ++ one .body body

def classDeclaration (nameIsOptional : Bool) : Parsing Piece := do
  let start ← here
  finish start .classDeclaration (← classParts g nameIsOptional)

def classExpression : Parsing Term := do
  let start ← here
  finishTerm start .classExpression (← classParts g true)

end Relabel.Source
