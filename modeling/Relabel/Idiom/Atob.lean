import Relabel.Idiom.Basic

/-!
# Access to the global decoder

The family of idioms around the global `atob`: an accessor that returns it, an invoker that fetches
it from `window` in a guarded way, and wrappers that choose between it and a polyfill.
-/

namespace Relabel.Recognition

/-- A variable whose initialiser somewhere returns the global `atob`. Variables declared inside the
initialiser are candidates of their own. -/
def polyfillAccessor (context : Context) (n : Node) : Answer := do
  let some id := identifier? n .id | nothing
  let some init := n.child? .init | nothing
  let returnsGlobal (candidate : Node) : Bool :=
    candidate.hasKind .returnStatement && (candidate.child? .argument).any fun argument ↦
      argument.isNamed "atob" && context.store.isFree argument
  if ← search (init.walk [.variableDeclarator]) returnsGlobal then askFor context id .atobGetter
  else nothing

def guardedReturn : String := "return window.atob;"

/-- The only statement guarded by a `try` that opens a function without name and parameters. -/
def guardedStatement? (callee : Node) : Option Node := do
  guard ((callee.child? .id).isNone && callee.params.isEmpty)
  let first ← callee.statements.head?.join
  guard (first.hasKind .tryStatement)
  let block ← first.child? .block
  match block.items .body with
  | [some only] => some only
  | _ => none

/-- A variable set to the result of a function that is called at once and guards the access to
`window.atob`. -/
def guardedInvoker (context : Context) (n : Node) : Answer := do
  let [some declarator] := n.items .declarations | nothing
  if n.head.variety ≠ some "var" then nothing
  else
    let some init := ofKind? declarator .init .callExpression | nothing
    let some id := identifier? declarator .id | nothing
    let some callee := ofKind? init .callee .functionExpression | nothing
    let some only := guardedStatement? callee | nothing
    if (← render only) == guardedReturn then askFor context id .atobCall else nothing

/-- The choice between two calls that a named function of one parameter returns. -/
structure Choice where
  id : Node
  test : Node
  consequent : Node
  alternate : Node

def choice? (n : Node) : Option Choice := do
  let id ← identifier? n .id
  guard (n.params.length = 1)
  let argument ← n.soleReturn?.filter (·.hasKind .conditionalExpression)
  let test ← ofKind? argument .test .binaryExpression
  let consequent ← ofKind? argument .consequent .callExpression
  let alternate ← ofKind? argument .alternate .callExpression
  return { id, test, consequent, alternate }

/-- A function that chooses between the guarded invoker, which has its canonical name by then, and
a polyfill. -/
def wrapper (context : Context) (n : Node) : Answer := do
  let some choice := choice? n | nothing
  let some polyfill := identifier? choice.alternate .callee | nothing
  let callName ← Issuing.nameFor .atobCall
  if (choice.consequent.child? .callee).any (·.isNamed callName) then
    return requests
      [(context.store.bindingOf? choice.id, ← Issuing.nameFor .atobWrapper),
        (context.store.bindingOf? polyfill, ← Issuing.nameFor .atobPolyfill)]
  else nothing

/-- The single argument of a call to a plain name. -/
def soleArgument? (n : Node) : Option (Option Node) := do
  let _ ← identifier? n .callee
  match n.arguments with
  | [argument] => some argument
  | _ => none

/-- A function that compares a text with an operator's result and passes the same argument on in
both cases. -/
def stringGuard (context : Context) (n : Node) : Answer := do
  let some choice := choice? n | nothing
  let comparesText :=
    choice.test.head.operator == some "==" && (choice.test.child? .left).any (·.isText) &&
      (choice.test.child? .right).any (·.hasKind .unaryExpression)
  if !comparesText then nothing
  else
    let some (some first) := soleArgument? choice.consequent | nothing
    let some (some second) := soleArgument? choice.alternate | nothing
    let text ← render first
    if (← render second) == text then askFor context choice.id .atobWrapper else nothing

end Relabel.Recognition
