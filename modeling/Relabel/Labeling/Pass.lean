import Relabel.Idiom.Catalogue

/-!
# Passes

A pass is one traversal of a program with a set of idioms. No two idioms of a pass look at the same
kind of node with the same priority, so that their order is settled.
-/

namespace Relabel

structure Pass where
  name : String
  description : String := ""
  idioms : List Idiom
deriving Repr, DecidableEq

/-- Two idioms of a pass would be tried at the same time. -/
structure PassFault where
  pass : String
  later : Idiom
  earlier : Idiom
deriving Repr, DecidableEq

def PassFault.message (fault : PassFault) : String :=
  "pass " ++ Text.quote fault.pass ++ ": " ++ fault.later.label ++ " and " ++ fault.earlier.label ++
    " share priority " ++ toString fault.later.priority ++ " on " ++ fault.later.kind.tag

namespace Pass

def sharePlace (a b : Idiom) : Bool :=
  a.kind == b.kind && a.priority == b.priority

/-- The first idiom of a list that shares its place with one before it, and that one. -/
def conflict? (seen : List Idiom) : List Idiom → Option (Idiom × Idiom)
  | [] => none
  | idiom :: rest =>
    match seen.find? (sharePlace idiom) with
    | some earlier => some (idiom, earlier)
    | none => conflict? (seen ++ [idiom]) rest

def create (name description : String) (idioms : List Idiom) : Except PassFault Pass :=
  match conflict? [] idioms with
  | some (later, earlier) => .error ⟨name, later, earlier⟩
  | none => .ok { name, description, idioms }

/-- The idioms of a pass by kind of node, those of one kind in order of priority. -/
def table (pass : Pass) : Table Kind (List Idiom) :=
  let sorted := pass.idioms.mergeSort fun a b ↦ a.priority ≤ b.priority
  sorted.foldl (fun table idiom ↦
    table.set idiom.kind ((table.get? idiom.kind).getD [] ++ [idiom])) {}

def structural : Pass where
  name := "structural"
  description := "Atob Accessors, Handler Map, Catch Params and Decode Helpers"
  idioms := [.polyfillAccessor, .guardedInvoker, .handlerMap, .catchParameter, .chartDecode,
    .standardDecode, .performanceNow]

def wrappers : Pass where
  name := "wrappers"
  description := "Atob Wrappers"
  idioms := [.wrapper, .stringGuard]

def getters : Pass where
  name := "getters"
  description := "Getters"
  idioms := [.simpleGetter]

def parameters : Pass where
  name := "parameters"
  description := "Response Handler Params"
  idioms := [.handlerParameters]

/-- The standard sequence: wrappers need the invoker's canonical name, getters take the final name
of what they return, and parameters need the names of the handlers. -/
def standard : List Pass :=
  [structural, wrappers, getters, parameters]

end Pass

end Relabel
