import Relabel.Data.Table
import Relabel.Naming.Role
import Relabel.Text.Identifier
import Relabel.Text.Template

/-!
# The naming registry

A registry gives out canonical names: one fixed name for every role, and names computed from the
program for getters and handlers. It remembers for whom each name was issued, so that no name has
two owners. All generated names but the catch parameter's begin with the registry's lead.
-/

namespace Relabel

inductive RegistryFault where
  | badCanonicalName (role : Role) (name : String)
  | badComputedName (name : String)
  | clash (name owner claimant : String)
deriving Repr, DecidableEq

def RegistryFault.message : RegistryFault → String
  | badCanonicalName role name =>
    "canonical name for " ++ role.key ++ " is not an identifier: " ++ Text.quote name
  | badComputedName name => "computed name is not an identifier: " ++ Text.quote name
  | clash name owner claimant =>
    "name " ++ Text.quote name ++ " issued for both " ++ owner ++ " and " ++ claimant

/-- Parameter names for a handler, by the handler's key. The names are templates for the lead. -/
abbrev ParameterRoles := List (String × List String)

/-- The names of the first parameters, each the lead and a letter. -/
def leadLetters (letters : List String) : List String :=
  letters.map ("\x7bprefix\x7d" ++ ·)

def defaultParameterRoles : ParameterRoles :=
  [("bake", ["name", "expires", "value", "useDomain", "o"]),
    ("cfe", leadLetters ["a", "b", "c", "d"]),
    ("sff", leadLetters ["a", "b", "c"]),
    ("sffe", leadLetters ["a"]),
    ("en", ["name", "expires", "value", "useDomain", "o"]),
    ("sid", ["sid"]),
    ("vid", ["value", "expires", "useDomain"]),
    ("te", leadLetters ["a", "b", "c", "d", "e", "f"]),
    ("jsc", leadLetters ["a", "b", "c"]),
    ("pre", leadLetters ["a"]),
    ("keys", leadLetters ["a", "b"]),
    ("cs", ["value"]),
    ("cls", ["value", "expires", "useDomain"]),
    ("sts", ["startTs"]),
    ("drc", ["px985Value"]),
    ("wcs", ["px943Value"]),
    ("vals", leadLetters ["a"]),
    ("ci", leadLetters ["a", "b", "c", "d"]),
    ("spi", []),
    ("cv", leadLetters ["a"]),
    ("rmhd", []),
    ("rwd", []),
    ("cp", leadLetters ["a", "b", "c"] ++ ["d"]),
    ("cts", leadLetters ["a", "b"])]

structure Registry where
  lead : String
  descriptors : Descriptors
  parameterRoles : ParameterRoles
  /-- The names given out, in order of first issue, with the key of their owner. -/
  issued : Table String String := {}

namespace Registry

/-- The canonical name of a role. -/
def nameFor (r : Registry) (role : Role) : String :=
  if role.hasLead then r.lead ++ r.descriptors role else r.descriptors role

def ownerOf? (r : Registry) (name : String) : Option String :=
  r.issued.get? name

/-- Issues a name to an owner, unless another one has it. -/
def claim (r : Registry) (name owner : String) : Except RegistryFault Registry :=
  match r.ownerOf? name with
  | some other =>
    if other = owner then .ok { r with issued := r.issued.set name owner }
    else .error (.clash name other owner)
  | none => .ok { r with issued := r.issued.set name owner }

/-- Issues the canonical name of a role, which has to be an identifier. -/
def claimRole (r : Registry) (role : Role) : Except RegistryFault Registry :=
  let name := r.nameFor role
  if isIdentifier name then r.claim name role.key else .error (.badCanonicalName role name)

/-- A registry that has issued the canonical names of all roles. -/
def create (lead : String) (descriptors : Descriptors) (parameterRoles : ParameterRoles) :
    Except RegistryFault Registry :=
  Role.all.foldlM claimRole { lead, descriptors, parameterRoles }

/-- Issues a computed name, which has to be an identifier. -/
def computed (r : Registry) (kind descriptor name : String) : Except RegistryFault Registry :=
  if isIdentifier name then r.claim name (kind ++ ":" ++ descriptor)
  else .error (.badComputedName name)

def getterName (r : Registry) (field : String) : String :=
  r.lead ++ "get_" ++ field

def handlerName (r : Registry) (key : String) : String :=
  r.lead ++ key ++ "Handler"

/-- Issues the name of the getter of a field. -/
def issueGetter (r : Registry) (field : String) : Except RegistryFault Registry :=
  r.computed "getter" field (r.getterName field)

/-- Issues the name of the handler stored under a key. -/
def issueHandler (r : Registry) (key : String) : Except RegistryFault Registry :=
  r.computed "handler" key (r.handlerName key)

end Registry

end Relabel
