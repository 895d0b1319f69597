import Relabel.Naming.Registry
import Relabel.Printing.Fault
import Relabel.Syntax.Walk

/-!
# Issuing names

Computations that use a registry and can fail. The names issued before a failure stay issued.
-/

namespace Relabel

/-- What can go wrong while a program is labelled. -/
inductive Fault where
  | tree (fault : TreeFault)
  | registry (fault : RegistryFault)
  | template (fault : Text.TemplateError)
  | printing (fault : PrintFault)
deriving Repr, DecidableEq

def Fault.message : Fault → String
  | tree fault => fault.message
  | registry fault => fault.message
  | template fault => fault.message
  | printing fault => fault.message

abbrev Issuing (α : Type) : Type :=
  ExceptT Fault (StateM Registry) α

namespace Issuing

def registry : Issuing Registry := get

/-- Runs an issue and keeps the registry it gives; a failing issue changes nothing. -/
def claim (issue : Registry → Except RegistryFault Registry) : Issuing Unit := do
  match issue (← get) with
  | .ok r => set r
  | .error fault => throw (.registry fault)

def nameFor (role : Role) : Issuing String :=
  return (← registry).nameFor role

def getterName (field : String) : Issuing String := do
  claim (·.issueGetter field)
  return (← registry).getterName field

def handlerName (key : String) : Issuing String := do
  claim (·.issueHandler key)
  return (← registry).handlerName key

def fillTemplate (template : String) : Issuing String := do
  match Text.Template.fill "prefix" (← registry).lead template with
  | .ok text => return text
  | .error fault => throw (.template fault)

/-- The parameter names of all handlers, by the handler's canonical name. A handler's parameter
names are filled in before its own name is issued. -/
def parameterRoles : Issuing (Table String (List String)) := do
  (← registry).parameterRoles.foldlM (fun roles (key, templates) ↦ do
    let params ← templates.mapM fillTemplate
    let name ← handlerName key
    return roles.set name params) {}

end Issuing

end Relabel
