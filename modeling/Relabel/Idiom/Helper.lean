import Relabel.Idiom.Basic

/-!
# Helper functions

Decoders of texts, the timer with its fallback, and the parameters of catch clauses.
-/

namespace Relabel.Recognition

/-- The length of the key text of a chart decoder. -/
def chartKeyLength : Nat := 7

/-- A call of `charCodeAt` on a text of the key's length. -/
def readsChartKey (n : Node) : Bool :=
  n.isMemberCall "charCodeAt" && match (n.child? .callee).bind (·.child? .object) with
    | some key => key.hasKind .literal && match key.head.value with
      | some (.text s) => s.length = chartKeyLength
      | _ => false
    | none => false

/-- A function whose body somewhere reads a chart key. Functions declared inside it are candidates
of their own. -/
def chartDecode (context : Context) (n : Node) : Answer := do
  let some id := identifier? n .id | nothing
  let some body := n.child? .body | nothing
  if ← search (body.walk [.functionDeclaration]) readsChartKey then askFor context id .chartDecode
  else nothing

/-- A call of the global `atob`. -/
def callsGlobalAtob (context : Context) (n : Node) : Bool :=
  n.hasKind .callExpression && (n.child? .callee).any fun callee ↦
    callee.isNamed "atob" && context.store.isFree callee

/-- A call of `charCodeAt(0)` on the variable that a declarator declares. -/
def readsFirstCode (context : Context) (decoded n : Node) : Bool :=
  n.isMemberCall "charCodeAt" &&
    (n.arguments.head?.join).any (·.isNumberOf (.integer 0)) &&
    match (n.child? .callee).bind (identifier? · .object), identifier? decoded .id with
    | some target, some id =>
      (context.store.bindingOf? target).isSome &&
        context.store.bindingOf? target == context.store.bindingOf? id
    | _, _ => false

/-- A function that opens with three declarations: the first decodes with `atob`, the second reads
the code of the first character of the result. -/
def standardDecode (context : Context) (n : Node) : Answer := do
  let some id := identifier? n .id | nothing
  let some first :: some second :: some third :: _ := n.statements | nothing
  if !([first, second, third].all (·.hasKind .variableDeclaration)) then nothing
  else
    let some decoded := first.firstDeclarator? | nothing
    let some code := second.firstDeclarator? | nothing
    if (decoded.child? .init).any (callsGlobalAtob context) &&
        (code.child? .init).any (readsFirstCode context decoded) then
      askFor context id .standardDecode
    else nothing

def timerExpression : String :=
  "window.performance && window.performance.now ? window.performance.now() : Date.now()"

/-- A function without parameters that returns the time, by the precise clock if there is one. -/
def performanceNow (context : Context) (n : Node) : Answer := do
  let some id := identifier? n .id | nothing
  if !n.params.isEmpty then nothing
  else
    let some argument := n.soleReturn? | nothing
    if (← render argument) == timerExpression then askFor context id .performanceNow else nothing

/-- The parameter of a catch clause. -/
def catchParameter (context : Context) (n : Node) : Answer := do
  let some param := identifier? n .param | nothing
  askFor context param .catchParameter

end Relabel.Recognition
