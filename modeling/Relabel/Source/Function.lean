import Relabel.Source.Binding

/-!
# Functions

Parameters, bodies and the functions made of them. Some parameters are refused only in strict code,
and whether a function is strict is known only after the directives of its body; so what would be
wrong with the parameters is remembered until then.
-/

namespace Relabel.Source

/-- A name that strict code refuses: its token, or a name that was read long before. -/
inductive Offender where
  | token (t : Token)
  | earlier

def refuseOffender {α : Type} (complaint : Complaint) : Offender → Parsing α
  | .token t => refuseToken t complaint
  | .earlier => refuse complaint

structure Parameters where
  nodes : List Piece := []
  /-- All parameters are plain names. -/
  simple : Bool := true
  names : List String := []
  /-- The first name that would be refused if the code turned out to be strict. -/
  restricted : Option Offender := none
  /-- A name that is refused in strict code. -/
  offending : Option Offender := none
  complaint : Option Complaint := none

namespace Parameters

/-- Adds a name and notes what is wrong with it. -/
def bind (p : Parameters) (strict : Bool) (who : Offender) (name : String) : Parameters :=
  let isKnown := p.names.contains name
  let added := { p with names := name :: p.names }
  if strict then
    if isKnown then
      { added with offending := some who, complaint := some .strictDuplicateParameter }
    else if isRestricted name then
      { added with offending := some who, complaint := some .strictParameterName }
    else added
  else if p.restricted.isSome then added
  else if isRestricted name then
    { added with restricted := some who, complaint := some .strictParameterName }
  else if isStrictReserved name then
    { added with restricted := some who, complaint := some .strictReservedWord }
  else if isKnown then
    { added with offending := some who, complaint := some .strictDuplicateParameter }
  else added

/-- Adds a parameter with the tokens that it binds. -/
def add (p : Parameters) (strict : Bool) (param : Piece) (bound : Bound) : Parameters :=
  let p := bound.foldl (fun p t ↦ p.bind strict (.token t) t.text) p
  { p with nodes := p.nodes ++ [param], simple := p.simple && param.node.hasKind .identifier }

end Parameters

/-- Refuses parameters that the code, now that it is known to be strict, does not allow. -/
def checkParameters (p : Parameters) (complaint : Complaint) : Parsing Unit := do
  if (← context).strict then
    match p.restricted with
    | some who => refuseOffender complaint who
    | none => pure ()
    match p.offending with
    | some who => refuseOffender complaint who
    | none => pure ()

section

variable (g : Grammar)

/-- Parameters in parentheses; `name` is a function's name that strict code would refuse. -/
def parameters (name : Option Token) : Parsing Parameters := do
  expect "("
  let start : Parameters := { restricted := name.map .token }
  let found ← commaItems ")" do
    let (param, bound) ← if ← isNext "..." then restParameter g else defaultedPattern g none
    return ((← context).strict, param, bound)
  expect ")"
  return found.foldl (fun p (strict, param, bound) ↦ p.add strict param bound) start

/-- A text that stands as a statement: a directive, if it is nothing more. -/
def directive : Parsing Piece := do
  let t ← lookahead
  let start ← here
  let value ← expression g
  let raw := String.ofList ((← get).scan.slice (t.start + 1) (t.stop - 1))
  endStatement
  let meaning := if value.node.hasKind .literal && !raw.isEmpty then some raw else none
  finish start .expressionStatement (one .expression value) ({ · with directive := meaning })

/-- The directives at the start of a body; `octal` is the first one written with an octal escape. -/
def directivesFor : Nat → Option Token → List Piece → Parsing (List Piece)
  | 0, _, found => return found.reverse
  | fuel + 1, octal, found => do
    let t ← lookahead
    if t.type != .text then return found.reverse
    let statement ← directive g
    match statement.node.head.directive with
    | none => return (statement :: found).reverse
    | some "use strict" =>
      modifyContext ({ · with strict := true })
      match octal with
      | some t => refuseToken t .strictOctal
      | none => pure ()
      unless (← context).allowStrictDirective do refuseToken t .illegalStrictDirective
      directivesFor fuel octal (statement :: found)
    | some _ =>
      directivesFor fuel (octal.or (if t.octal then some t else none)) (statement :: found)

def directives : Parsing (List Piece) := do
  directivesFor g ((← get).scan.text.size + 2) none []

/-- Statements and declarations up to a closing brace or the end. -/
def items : Parsing (List Piece) :=
  collect do
    if (← lookahead).type == .endOfText || (← isNext "\x7d") then return none
    return some (← g.item)

def functionBody : Parsing Piece := do
  let start ← here
  expect "\x7b"
  let first ← directives g
  let outer ← context
  modifyContext ({ · with labels := [], inLoop := false, inSwitch := false, inFunction := true })
  let rest ← items g
  expect "\x7d"
  modifyContext ({ · with
    labels := outer.labels, inLoop := outer.inLoop, inSwitch := outer.inSwitch
    inFunction := outer.inFunction })
  finish start .blockStatement (many .body (first ++ rest))

/-- The name of a function, with the complaint if strict code would refuse it. -/
def functionName (read : Parsing Term) : Parsing (Term × Option (Token × Complaint)) := do
  let t ← lookahead
  let id ← read
  if (← context).strict then
    if isRestricted t.text then refuseToken t .strictFunctionName
    return (id, none)
  else if isRestricted t.text then return (id, some (t, .strictFunctionName))
  else if isStrictReserved t.text then return (id, some (t, .strictReservedWord))
  else return (id, none)

/-- The marks before a function's name: whether it is asynchronous, and whether a generator. -/
def functionMarks : Parsing (Bool × Bool) := do
  let isAsync ← isNextWord "async"
  if isAsync then
    let _ ← advance
  expectKeyword "function"
  let generator ← if isAsync then pure false else accept "*"
  return (isAsync, generator)

/-- The parameters and the body of a function, with its name before them; afterwards `outer` decides
again what `await` and `yield` mean. -/
def functionRest (named : Option (Term × Option (Token × Complaint))) (outer : Context) :
    Parsing Branches := do
  let offence := named.bind (·.2)
  let params ← parameters g (offence.map (·.1))
  let before ← context
  modifyContext ({ · with allowStrictDirective := params.simple })
  let body ← functionBody g
  checkParameters params ((params.complaint.or (offence.map (·.2))).getD .illegalToken)
  modifyContext ({ · with
    strict := before.strict, allowStrictDirective := before.allowStrictDirective
    allowAwait := outer.allowAwait, allowYield := outer.allowYield })
  return maybe .id (named.map (·.1)) ++ many .params params.nodes ++ one .body body

def functionDeclaration (nameIsOptional : Bool) : Parsing Piece := do
  let start ← here
  let (isAsync, generator) ← functionMarks
  let named ← if nameIsOptional && (← isNext "(") then pure none
    else some <$> functionName (boundName none)
  let outer ← context
  modifyContext ({ · with allowAwait := isAsync, allowYield := !generator })
  let branches ← functionRest g named outer
  finish start .functionDeclaration branches ({ · with isAsync, generator })

def functionExpression : Parsing Term := do
  let start ← here
  let (isAsync, generator) ← functionMarks
  let outer ← context
  modifyContext ({ · with allowAwait := isAsync, allowYield := !generator })
  let named ← if ← isNext "(" then pure none
    else
      let plain := !outer.strict && !generator && (← isNextKeyword "yield")
      some <$> functionName (if plain then propertyName else boundName none)
  let branches ← functionRest g named outer
  finishTerm start .functionExpression branches ({ · with isAsync, generator })

inductive Method where
  | plain | async | generator | getter | setter
deriving DecidableEq

/-- Refuses an accessor with the wrong parameters. -/
def checkArity (method : Method) (params : List Piece) : Parsing Unit := do
  match method with
  | .getter => unless params.isEmpty do refuseLine .badGetterArity
  | .setter =>
    match params with
    | [only] => if only.node.hasKind .restElement then refuseLine .badSetterRest
    | _ => refuseLine .badSetterArity
  | _ => pure ()

/-- The function of a method: it starts at its parameters. -/
def methodFunction (method : Method) : Parsing Term := do
  let start ← here
  let outer ← context
  let isAsync := method == .async
  modifyContext ({ · with allowYield := !isAsync, allowAwait := isAsync || outer.allowAwait })
  let params ← parameters g none
  checkArity method params.nodes
  if method == .generator then modifyContext ({ · with allowYield := false })
  plainValue
  let before ← context
  modifyContext ({ · with allowStrictDirective := params.simple })
  let body ← isolate (functionBody g)
  checkParameters params (params.complaint.getD .illegalToken)
  modifyContext ({ · with
    strict := before.strict, allowStrictDirective := before.allowStrictDirective
    allowYield := outer.allowYield, allowAwait := outer.allowAwait })
  finishTerm start .functionExpression (many .params params.nodes ++ one .body body)
    ({ · with isAsync, generator := method == .generator })

end

end Relabel.Source
