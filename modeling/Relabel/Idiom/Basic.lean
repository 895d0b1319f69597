import Relabel.Naming.Issue
import Relabel.Printing.Render
import Relabel.Scope.Rename

/-!
# Idioms

An idiom is a shape of code that stands for a role. A recogniser looks at one node, as the edits
made so far leave it, and on a match asks for names of bindings. It changes neither the tree nor
the scopes, but it may have names issued.
-/

namespace Relabel

/-- A binding and the name it should carry. -/
structure Request where
  binding : BindingId
  name : String
deriving Repr, DecidableEq

namespace Recognition

/-- What recognisers may look at. -/
structure Context where
  store : Store
  edits : Edits

/-- The requests for the bindings that are known; a match without any is none. -/
def requests (wanted : List (Option BindingId × String)) : Option (List Request) :=
  match wanted.filterMap fun (binding, name) ↦ binding.map (Request.mk · name) with
  | [] => none
  | found => some found

/-- A recogniser's answer on a node. -/
abbrev Answer : Type := Issuing (Option (List Request))

/-- No match. -/
def nothing : Answer := return none

/-- A match that asks for a role's name for the binding of an identifier. -/
def askFor (context : Context) (identifier : Node) (role : Role) : Answer :=
  return requests [(context.store.bindingOf? identifier, ← Issuing.nameFor role)]

/-- The first node of a walk that has a property. The walk's fault counts only if it comes first. -/
def search (walk : Node.Walk) (p : Node → Bool) : Issuing Bool :=
  if walk.visits.any (fun visit ↦ p visit.node) then return true
  else match walk.fault with
    | some fault => throw (.tree fault)
    | none => return false

def render (n : Node) : Issuing String :=
  match n.render with
  | .ok text => return text
  | .error fault => throw (.printing fault)

/-- The child under a label, if it is an identifier. -/
def identifier? (n : Node) (field : Field) : Option Node :=
  (n.child? field).filter (·.isIdentifier)

/-- The child under a label, if it has a kind. -/
def ofKind? (n : Node) (field : Field) (kind : Kind) : Option Node :=
  (n.child? field).filter (·.hasKind kind)

end Recognition

end Relabel
