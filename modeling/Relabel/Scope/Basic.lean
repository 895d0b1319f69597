import Relabel.Data.Table
import Relabel.Syntax.Query
import Relabel.Syntax.Walk

/-!
# Scopes, bindings and references

A store describes the names of one program: its scopes, numbered in the order in which they were
opened, the bindings declared in each, and every place where a name is written. A scope's table and
the index by name are kept up to date when a binding is renamed; the places themselves never change.
-/

namespace Relabel

abbrev ScopeId := Nat

abbrev BindingId := Nat

/-- How messages and reports name a scope. -/
def scopeText (id : ScopeId) : String :=
  "scope_" ++ toString id

inductive ScopeType where
  | program | function | block | catchClause | loop | switch | classBody
deriving Repr, DecidableEq, Inhabited

def ScopeType.text : ScopeType → String
  | program => "program"
  | function => "function"
  | block => "block"
  | catchClause => "catch"
  | loop => "for"
  | switch => "switch"
  | classBody => "class"

inductive BindingKind where
  /-- Declared by a variable declaration, of the given variety. -/
  | declaration (variety : Option String)
  | function
  | parameter
  | catchParameter
  | classDeclaration
  /-- The name that a function or class expression has for itself. -/
  | ownName
  | imported
deriving Repr, DecidableEq, Inhabited

def BindingKind.text : BindingKind → Option String
  | declaration variety => variety
  | function => some "function"
  | parameter => some "param"
  | catchParameter => some "catch"
  | classDeclaration => some "class"
  | ownName => some "local"
  | imported => some "module"

/-- One place where a name is written. -/
structure Site where
  identifier : Node
  parent : Node
  scope : ScopeId
  /-- The shorthand property whose value the identifier is. -/
  owner : Option Node := none
deriving Inhabited

namespace Site

def id (site : Site) : NodeId := site.identifier.id

def line (site : Site) : Int := site.identifier.line

/-- The spelling at the time of the analysis. -/
def name (site : Site) : String := site.identifier.head.name.getD ""

end Site

/-- A declared name with all the places that resolve to it. -/
structure Binding where
  name : String
  kind : BindingKind
  scope : ScopeId
  declarations : List Site := []
  references : List Site := []
  /-- The binding was renamed, and its shorthand properties are written out. -/
  renamed : Bool := false
deriving Inhabited

namespace Binding

/-- The line of the first declaration. -/
def line (b : Binding) : Int :=
  match b.declarations with
  | site :: _ => site.line
  | [] => 0

def sites (b : Binding) : List Site := b.declarations ++ b.references

end Binding

structure Scope where
  type : ScopeType
  node : Node
  parent : Option ScopeId := none
  children : List ScopeId := []
  table : Table String BindingId := {}
deriving Inhabited

/-- A place that refers to a binding, or to no binding of the program. -/
structure Reference where
  site : Site
  binding : Option BindingId
deriving Inhabited

structure Store where
  scopes : Array Scope := #[]
  bindings : Array Binding := #[]
  /-- The scope in which each node sits. -/
  places : Table NodeId ScopeId := {}
  /-- The binding to which each identifier belongs. -/
  owners : Table NodeId BindingId := {}
  /-- The references by their current spelling. -/
  index : Table String (List Reference) := {}
  /-- The identifiers that refer to no binding. -/
  free : List NodeId := []
deriving Inhabited

namespace Store

/-- A scope and the scopes around it, innermost first. A scope is opened after the one around it,
so the numbers go down. -/
def chain (s : Store) (id : ScopeId) : List ScopeId :=
  match s.scopes[id]?.bind (·.parent) with
  | some parent => if parent < id then id :: s.chain parent else [id]
  | none => [id]
termination_by id

def own? (s : Store) (scope : ScopeId) (name : String) : Option BindingId :=
  s.scopes[scope]?.bind (·.table.get? name)

/-- The binding a name refers to in a scope: the one of the innermost scope that has it. -/
def lookup? (s : Store) (scope : ScopeId) (name : String) : Option BindingId :=
  (s.chain scope).findSome? (s.own? · name)

/-- A scope is within another if it is that scope or lies inside it. -/
def isWithin (s : Store) (inner outer : ScopeId) : Bool :=
  (s.chain inner).contains outer

def isFunctionLike (s : Store) (scope : ScopeId) : Bool :=
  s.scopes[scope]?.any fun sc ↦ sc.type == .function || sc.type == .program

/-- The nearest scope of a function or of the program. -/
def functionScope (s : Store) (scope : ScopeId) : ScopeId :=
  ((s.chain scope).find? s.isFunctionLike).getD ((s.chain scope).getLastD scope)

/-- The scope in which a node sits. -/
def enclosing (s : Store) (n : Node) : Except TreeFault ScopeId :=
  match s.places.get? n.id with
  | some scope => .ok scope
  | none => .error (.noScope n.kind)

/-- The binding an identifier belongs to. -/
def bindingOf? (s : Store) (n : Node) : Option BindingId :=
  if n.isIdentifier then s.owners.get? n.id else none

/-- Whether an identifier refers to no binding of the program. -/
def isFree (s : Store) (n : Node) : Bool :=
  n.isIdentifier && s.free.contains n.id

/-- The references of a spelling that refer to no binding. -/
def unresolved (s : Store) (name : String) : List Site :=
  ((s.index.get? name).getD []).filterMap fun ref ↦
    if ref.binding.isNone then some ref.site else none

/-- All bindings, scope by scope and in table order. -/
def allBindings (s : Store) : List (ScopeId × Binding) :=
  (s.scopes.toList.zipIdx).flatMap fun (scope, id) ↦
    scope.table.values.filterMap fun b ↦ s.bindings[b]?.map (id, ·)

end Store

end Relabel
