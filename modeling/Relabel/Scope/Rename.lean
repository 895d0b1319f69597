import Relabel.Scope.Basic
import Relabel.Syntax.Edit
import Relabel.Text.Identifier

/-!
# Renaming a binding

A binding is renamed at all its sites together, or not at all. A new name is refused if it is no
name for a binding, if the scope has another binding of that name, if a scope between a site and the
binding has one, or if a reference of that name from outside would be captured.
-/

namespace Relabel

/-- Why a new name is refused. -/
inductive Refusal where
  | notIdentifier
  | taken (scope : ScopeId) (name : String)
  | shadowed (isDeclaration : Bool) (line : Int) (scope : ScopeId)
  | captured (name : String) (line : Int)
deriving Repr, DecidableEq

def Refusal.message : Refusal → String
  | notIdentifier => "not a valid identifier"
  | taken scope name => scopeText scope ++ " already binds " ++ Text.quote name
  | shadowed isDeclaration line scope =>
    (if isDeclaration then "declaration" else "reference") ++ " on line " ++ toString line ++
      " would be shadowed by " ++ scopeText scope
  | captured name line =>
    "existing " ++ Text.quote name ++ " on line " ++ toString line ++ " would be captured"

/-- A rename that was refused. -/
structure Collision where
  oldName : String
  newName : String
  refusal : Refusal
deriving Repr, DecidableEq

def Collision.message (c : Collision) : String :=
  "cannot rename " ++ Text.quote c.oldName ++ " to " ++ Text.quote c.newName ++ ": " ++
    c.refusal.message

namespace Store

/-- The scopes from a site outward up to the binding's own scope, which is left out. -/
def between (s : Store) (site : Site) (scope : ScopeId) : List ScopeId :=
  (s.chain site.scope).takeWhile (· ≠ scope)

/-- The first scope between a site and the binding's scope that has a binding of a name. -/
def shadow? (s : Store) (b : Binding) (name : String) (site : Site) : Option ScopeId :=
  (s.between site b.scope).find? fun scope ↦ (s.own? scope name).isSome

/-- Whether a reference is one of another binding or of none, from outside the binding's scope, and
stands inside it. -/
def isCaptured (s : Store) (id : BindingId) (b : Binding) (ref : Reference) : Bool :=
  ref.binding ≠ some id && s.isWithin ref.site.scope b.scope &&
    match ref.binding.bind (s.bindings[·]?) with
    | some other => !s.isWithin other.scope b.scope
    | none => true

/-- Why a binding cannot take a name, if it cannot. -/
def refusal? (s : Store) (id : BindingId) (b : Binding) (name : String) : Option Refusal :=
  if !isIdentifier name || isReserved name then some .notIdentifier
  else if (s.own? b.scope name).any (· ≠ id) then some (.taken b.scope name)
  else
    let sites := b.declarations.map (true, ·) ++ b.references.map (false, ·)
    let shadowed := sites.findSome? fun (isDeclaration, site) ↦
      (s.shadow? b name site).map (Refusal.shadowed isDeclaration site.line)
    let captured := ((s.index.get? name).getD []).find? (s.isCaptured id b)
    shadowed.or (captured.map fun ref ↦ .captured name ref.site.line)

/-- Respells all sites of a binding, writing out the shorthand properties among them first. -/
def respellSites (b : Binding) (name : String) (e : Edits) : Edits :=
  b.sites.foldl (fun e site ↦
    let e := match site.owner with
      | some property => if b.renamed then e else e.writeOut property b.name
      | none => e
    e.respell site.id name) e

/-- The index after a binding took a new name. -/
def reindex (s : Store) (id : BindingId) (b : Binding) (name : String) :
    Table String (List Reference) :=
  let remaining := ((s.index.get? b.name).getD []).filter fun ref ↦ ref.binding ≠ some id
  let index := if remaining.isEmpty then s.index.erase b.name else s.index.set b.name remaining
  index.set name ((index.get? name).getD [] ++ b.references.map fun site ↦ ⟨site, some id⟩)

/-- The store after a binding took a new name. -/
def rekey (s : Store) (id : BindingId) (b : Binding) (name : String) : Store :=
  { s with
    scopes := s.scopes.modify b.scope fun scope ↦
      { scope with table := (scope.table.erase b.name).set name id }
    bindings := s.bindings.modify id fun b ↦ { b with name, renamed := true }
    index := s.reindex id b name }

/-- Renames a binding in the store and, by edits, in the tree. -/
def rename (s : Store) (e : Edits) (id : BindingId) (name : String) :
    Except Collision (Store × Edits) :=
  match s.bindings[id]? with
  | none => .ok (s, e)
  | some b =>
    if b.name = name then .ok (s, e)
    else match s.refusal? id b name with
      | some refusal => .error ⟨b.name, name, refusal⟩
      | none => .ok (s.rekey id b name, respellSites b name e)

end Store

end Relabel
