import Relabel.Syntax.Node

/-!
# Questions about nodes

Predicates and selections on the shapes that idioms look for. Each of them has an answer for
every node: a missing or oddly shaped part makes it false, empty or absent.
-/

namespace Relabel.Node

def isIdentifier (n : Node) : Bool :=
  n.hasKind .identifier

def isNamed (n : Node) (name : String) : Bool :=
  n.isIdentifier && n.head.name == some name

def isText (n : Node) : Bool :=
  n.hasKind .literal && match n.head.value with
    | some (.text _) => true
    | _ => false

def isNumber (n : Node) : Bool :=
  n.hasKind .literal && match n.head.value with
    | some (.number _) => true
    | _ => false

def isNumberOf (n : Node) (value : Number) : Bool :=
  n.hasKind .literal && match n.head.value with
    | some (.number m) => m.sameValue value
    | _ => false

/-- The statements of a function whose body is a block. -/
def statements (n : Node) : List (Option Node) :=
  match n.child? .body with
  | some body => if body.hasKind .blockStatement then body.items .body else []
  | none => []

def params (n : Node) : List (Option Node) :=
  n.items .params

def arguments (n : Node) : List (Option Node) :=
  n.items .arguments

/-- What a function returns whose body is exactly one return statement. -/
def soleReturn? (n : Node) : Option Node :=
  match n.statements with
  | [some statement] =>
    if statement.hasKind .returnStatement then statement.child? .argument else none
  | _ => none

/-- A call of the form `object.name(…)`, written with a point. -/
def isMemberCall (n : Node) (name : String) : Bool :=
  n.hasKind .callExpression && match n.child? .callee with
    | some callee =>
      callee.hasKind .memberExpression && !callee.head.computed &&
        (callee.child? .property).any (·.isNamed name)
    | none => false

def firstDeclarator? (n : Node) : Option Node :=
  if n.hasKind .variableDeclaration then n.child? .declarations else none

end Relabel.Node
