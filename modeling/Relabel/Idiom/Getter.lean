import Relabel.Idiom.Basic

/-!
# Getters

A getter is a function whose body is exactly `return` and a name. It is named after the final name
of what it returns: if that is a getter again, the name of the inner getter comes first. Getters
that return each other in a circle keep their names.
-/

namespace Relabel.Recognition

/-- A function that another idiom has named keeps its name. -/
def isNamedByOther (r : Registry) (name : String) : Bool :=
  (r.ownerOf? name).any fun owner ↦ !owner.startsWith "getter:"

/-- The identifier that a getter-shaped function returns. -/
def returnedIdentifier? (r : Registry) (n : Node) : Option Node := do
  guard (n.hasKind .functionDeclaration)
  let id ← identifier? n .id
  guard (!isNamedByOther r (id.head.name.getD ""))
  n.soleReturn?.filter (·.isIdentifier)

/-- The identifier that a binding's first declaration returns, if it is a getter. -/
def returnedBy? (context : Context) (r : Registry) (b : Binding) : Option Node := do
  guard (b.kind = .function)
  let site ← b.declarations.head?
  returnedIdentifier? r (context.edits.apply site.parent)

/-- The name that a binding ends up with, or none if its getters run in a circle. Each binding of
`unvisited` is followed at most once. -/
def finalName (context : Context) (unvisited : List BindingId) (id : BindingId) :
    Issuing (Option String) := do
  let some b := context.store.bindings[id]? | return none
  let some argument := returnedBy? context (← Issuing.registry) b | return some b.name
  if _fresh : id ∈ unvisited then
    let field ← match context.store.bindingOf? argument with
      | some returned => finalName context (unvisited.erase id) returned
      | none => pure argument.head.name
    match field with
    | some field => return some (← Issuing.getterName field)
    | none => return none
  else return none
termination_by unvisited.length
decreasing_by
  have shorter := List.length_erase_of_mem _fresh
  have positive := List.length_pos_of_mem _fresh
  omega

def simpleGetter (context : Context) (n : Node) : Answer := do
  let some id := (n.child? .id).bind context.store.bindingOf? | nothing
  if (returnedIdentifier? (← Issuing.registry) n).isNone then nothing
  else
    let all := List.range context.store.bindings.size
    match ← finalName context all id with
    | some name => return requests [(some id, name)]
    | none => nothing

end Relabel.Recognition
