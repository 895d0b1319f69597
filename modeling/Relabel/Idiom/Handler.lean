import Relabel.Idiom.Basic

/-!
# Response handlers

The map from response keys to handlers, and the parameters of the handlers in it.
-/

namespace Relabel.Recognition

/-- The key by which a handler map is known. -/
def handlerMapMarker : String := "bake"

/-- A plain property whose key and value are identifiers. -/
def identifierProperty? (prop : Node) : Option (Node × Node) := do
  guard (prop.hasKind .property)
  guard (!prop.head.computed && !prop.head.isMethod && prop.head.variety == some "init")
  return (← identifier? prop .key, ← identifier? prop .value)

/-- A variable that holds a map of handlers. -/
def handlerMap (context : Context) (n : Node) : Answer := do
  let some map := ofKind? n .init .objectExpression | nothing
  let properties := (map.items .properties).filterMap fun item ↦ item.bind identifierProperty?
  if !properties.any (·.1.isNamed handlerMapMarker) then nothing
  else
    let handlers ← properties.mapM fun (key, value) ↦ do
      let name ← Issuing.handlerName (key.head.name.getD "")
      return (context.store.bindingOf? value, name)
    let map ← match identifier? n .id with
      | some id => do
        pure [(context.store.bindingOf? id, ← Issuing.nameFor .responseHandlers)]
      | none => pure []
    return requests (handlers ++ map)

/-- The parameters of a handler, which has its canonical name by then. Parameters beyond the known
ones keep their names. -/
def handlerParameters (context : Context) (n : Node) : Answer := do
  let some id := identifier? n .id | nothing
  let some names := (← Issuing.parameterRoles).get? (id.head.name.getD "") | nothing
  let params := n.params
  if params.isEmpty || !params.all (·.any (·.isIdentifier)) then nothing
  else
    let bindings := params.map fun param ↦ param.bind context.store.bindingOf?
    return requests (bindings.zip names)

end Relabel.Recognition
