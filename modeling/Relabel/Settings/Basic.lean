import Relabel.Data.Json
import Relabel.Naming.Registry

/-!
# Settings

What a user can choose: the leading text of generated names, the descriptors of the roles, the
ending of the files that are written, whether to keep quiet, and whether to pass over installed
dependencies. Settings come in as data and are checked field by field; all objections are reported
together, in the order of the fields.
-/

namespace Relabel

structure Settings where
  lead : String := "___"
  descriptors : Descriptors := Role.defaultDescriptor
  /-- The ending that takes the place of a file's own ending in the name of its output. -/
  outputSuffix : String := ".labeled.js"
  quiet : Bool := false
  skipsDependencies : Bool := true

/-- What is wrong with the value of one field. -/
inductive FieldFault where
  | notText
  | notObject
  | notTruth
  | unclearTruth
  | badLead (text : String)
  | badDescriptor (text : String)
deriving Repr, DecidableEq

def FieldFault.message : FieldFault → String
  | notText => "Input should be a valid string"
  | notObject => "Input should be a valid dictionary or instance of CanonicalNames"
  | notTruth => "Input should be a valid boolean"
  | unclearTruth => "Input should be a valid boolean, unable to interpret input"
  | badLead text => "Value error, prefix must be a valid identifier start: " ++ Text.quote text
  | badDescriptor text => "Value error, invalid name descriptor: " ++ Text.quote text

/-- A fault at the field that a list of keys leads to. -/
structure Objection where
  keys : List String
  fault : FieldFault
deriving Repr, DecidableEq

/-- Where settings come from besides the keywords that are passed directly. -/
inductive SettingsSource where
  | environment | variableFile
deriving Repr, DecidableEq

def SettingsSource.label : SettingsSource → String
  | environment => "EnvSettingsSource"
  | variableFile => "DotEnvSettingsSource"

inductive SettingsFault where
  /-- The descriptors given by a source are no structured data. -/
  | unreadableNames (source : SettingsSource)
  /-- The leading text is not a text at all. -/
  | leadOfKind (kind : String)
  | invalid (objections : List Objection)
deriving Repr, DecidableEq

def SettingsFault.message : SettingsFault → String
  | unreadableNames source =>
    "error parsing value for field \"names\" from source \"" ++ source.label ++ "\""
  | leadOfKind kind => "expected string or bytes-like object, got '" ++ kind ++ "'"
  | invalid objections => "\n".intercalate (objections.map fun o ↦
      ".".intercalate o.keys ++ ": " ++ o.fault.message)

namespace Settings

def leadKey : String := "prefix"

def namesKey : String := "names"

def suffixKey : String := "output_suffix"

def quietKey : String := "quiet"

def skipKey : String := "skip_minified_dirs"

/-- A leading text is empty or an identifier. -/
def isLead (text : String) : Bool :=
  text.isEmpty || isIdentifier text

/-- What a value is, for values that are given and are no text. -/
def foreignKind? : Json → Option String
  | .null => none
  | .text _ => none
  | value =>
    if value.isGiven then
      some (match value with
        | .boolean _ => "bool"
        | .number (.integer _) => "int"
        | .number (.real _) => "float"
        | .list _ => "list"
        | _ => "dict")
    else none

/-- The value of a field, or all that is wrong with it. -/
abbrev Checked := Except (List Objection)

def reject {α : Type} (keys : List String) (fault : FieldFault) : Checked α :=
  .error [⟨keys, fault⟩]

def checkLead : Option Json → Checked String
  | none => .ok "___"
  | some .null => .ok "___"
  | some (.text text) => if isLead text then .ok text else reject [leadKey] (.badLead text)
  | some _ => reject [leadKey] .notText

def checkDescriptor (role : Role) : Option Json → Checked String
  | none => .ok role.defaultDescriptor
  | some (.text text) =>
    if isNamePiece text then .ok text else reject [namesKey, role.key] (.badDescriptor text)
  | some _ => reject [namesKey, role.key] .notText

def objections {α : Type} : Checked α → List Objection
  | .ok _ => []
  | .error faults => faults

def checkNames : Option Json → Checked Descriptors
  | none => .ok Role.defaultDescriptor
  | some (.object fields) =>
    let check (role : Role) : Checked String := checkDescriptor role (Json.field? fields role.key)
    match Role.all.flatMap fun role ↦ objections (check role) with
    | [] => .ok fun role ↦ (check role).toOption.getD role.defaultDescriptor
    | faults => .error faults
  | some _ => reject [namesKey] .notObject

/-- An ending of files that programs are written to. -/
def programSuffix (text : String) : String :=
  if text.endsWith ".js" then text else text ++ ".js"

def checkSuffix : Option Json → Checked String
  | none => .ok ".labeled.js"
  | some (.text text) => .ok (programSuffix text)
  | some _ => reject [suffixKey] .notText

/-- The truth value that a word stands for. -/
def truthOfWord? (word : String) : Option Bool :=
  let word := word.map Char.toLower
  if ["1", "t", "true", "y", "yes", "on"].contains word then some true
  else if ["0", "f", "false", "n", "no", "off"].contains word then some false
  else none

def truthOfInt? (n : Int) : Option Bool :=
  if n = 1 then some true else if n = 0 then some false else none

/-- Whole numbers from here on are too large to stand for anything but themselves. -/
def wordLimit : Nat := 0x8000000000000000

def checkTruth (key : String) (standard : Bool) : Option Json → Checked Bool
  | none => .ok standard
  | some (.boolean value) => .ok value
  | some (.text word) => orUnclear (truthOfWord? word)
  | some (.number (.integer n)) => ofInt n
  | some (.number (.real x)) =>
    match x.toInt? with
    | some n => ofInt n
    | none => reject [key] .notTruth
  | some _ => reject [key] .notTruth
where
  ofInt (n : Int) : Checked Bool :=
    if n.natAbs < wordLimit then orUnclear (truthOfInt? n) else reject [key] .notTruth
  orUnclear : Option Bool → Checked Bool
    | some value => .ok value
    | none => reject [key] .unclearTruth

/-- Settings from data. A leading text that is something other than text stops the check. -/
def validate (fields : List (String × Json)) : Except SettingsFault Settings :=
  let given := Json.field? fields
  match (given leadKey).bind foreignKind? with
  | some kind => .error (.leadOfKind kind)
  | none =>
    let lead := checkLead (given leadKey)
    let descriptors := checkNames (given namesKey)
    let suffix := checkSuffix (given suffixKey)
    let quiet := checkTruth quietKey false (given quietKey)
    let skips := checkTruth skipKey true (given skipKey)
    match lead, descriptors, suffix, quiet, skips with
    | .ok lead, .ok descriptors, .ok outputSuffix, .ok quiet, .ok skipsDependencies =>
      .ok { lead, descriptors, outputSuffix, quiet, skipsDependencies }
    | _, _, _, _, _ =>
      .error (.invalid (objections lead ++ objections descriptors ++ objections suffix ++
        objections quiet ++ objections skips))

/-- The registry that settings ask for. -/
def registry (s : Settings) : Except RegistryFault Registry :=
  Registry.create s.lead s.descriptors defaultParameterRoles

/-- Settings as data. -/
def toJson (s : Settings) : Json :=
  .object [(leadKey, .text s.lead),
    (namesKey, .object (Role.all.map fun role ↦ (role.key, .text (s.descriptors role)))),
    (suffixKey, .text s.outputSuffix), (quietKey, .boolean s.quiet),
    (skipKey, .boolean s.skipsDependencies)]

end Settings

end Relabel
