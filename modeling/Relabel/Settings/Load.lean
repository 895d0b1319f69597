import Relabel.Data.JsonReader
import Relabel.Settings.Basic
import Relabel.Settings.VariableFile

/-!
# Loading settings

Settings are laid over each other: what is passed directly over the environment, the environment
over the file of variables, and all of it over the standard values. Variables are told apart
without regard to case. Descriptors come as one object, or one by one in variables of their own,
which win over the object.
-/

namespace Relabel.Settings

abbrev Variables := Table String (Option String)

def lower (text : String) : String :=
  text.map Char.toLower

/-- The variables under their names in lower case; of two that differ only in case the later one
counts. -/
def lowerKeys (vars : List (String × Option String)) : Variables :=
  .ofList (vars.map fun (name, value) ↦ (lower name, value))

def variableStart : String := "jslabel_"

def divider : List Char := ['_', '_']

/-- The parts of a name between dividers. -/
def splitKeys : List Char → List (List Char)
  | [] => [[]]
  | '_' :: '_' :: rest => [] :: splitKeys rest
  | c :: rest =>
    match splitKeys rest with
    | part :: parts => (c :: part) :: parts
    | [] => [[c]]

/-- Puts a value at the place that keys lead to, unless something other than an object is in the
way. -/
def plant (value : Json) : List String → List (String × Json) → List (String × Json)
  | [], fields => fields
  | [key], fields => Table.setEntries key value fields
  | key :: rest, fields =>
    match Json.field? fields key with
    | none => Table.setEntries key (.object (plant value rest [])) fields
    | some (.object inner) => Table.setEntries key (.object (plant value rest inner)) fields
    | some _ => fields

/-- The descriptors that have variables of their own. -/
def singleNames (vars : Variables) : List (String × Json) :=
  let start := (variableStart ++ namesKey).toList ++ divider
  vars.entries.foldl (fun fields (name, value) ↦
    if start.isPrefixOf name.toList then
      let keys := (splitKeys (name.toList.drop start.length)).map String.ofList
      plant ((value.map Json.text).getD .null) keys fields
    else fields) []

/-- Writes the keys of roles as they are spelled, whatever their case. -/
def respellRoles (fields : List (String × Json)) : List (String × Json) :=
  fields.foldl (fun done (key, value) ↦
    let key := ((Role.all.map Role.key).find? (· == lower key)).getD key
    Table.setEntries key value done) []

/-- The descriptors that variables give, if they give any. -/
def namesOf (source : SettingsSource) (vars : Variables) :
    Except SettingsFault (Option Json) :=
  let single := singleNames vars
  match (vars.get? (variableStart ++ namesKey)).join with
  | none => .ok (if single.isEmpty then none else some (.object (respellRoles single)))
  | some text =>
    match Json.parse? text with
    | none => .error (.unreadableNames source)
    | some .null => .ok none
    | some (.object fields) =>
      .ok (some (.object (respellRoles (Json.overlayFields fields single))))
    | some value => .ok (some value)

/-- The variables that an environment is asked for. -/
def variableNames : List String :=
  let names := namesKey :: Role.all.map fun role ↦ namesKey ++ String.ofList divider ++ role.key
  ([leadKey, suffixKey, quietKey, skipKey] ++ names).map fun key ↦
    (variableStart ++ key).map Char.toUpper

/-- The fields that variables give. -/
def layer (source : SettingsSource) (vars : Variables) :
    Except SettingsFault (List (String × Json)) := do
  let plain := [leadKey, suffixKey, quietKey, skipKey].filterMap fun key ↦
    (vars.get? (variableStart ++ key)).join.map fun value ↦ (key, Json.text value)
  let names ← namesOf source vars
  return plain ++ (names.map fun value ↦ (namesKey, value)).toList

/-- Settings from what is passed directly, from the environment, and from the text of a file of
variables. -/
def load (given : List (String × Json)) (environment : List (String × String))
    (file : Option String) : Except SettingsFault Settings := do
  let assigned := ((file.map (VariableFile.read environment)).getD {}).entries
  let fromEnvironment ← layer .environment
    (lowerKeys (environment.map fun (name, value) ↦ (name, some value)))
  let fromFile ← layer .variableFile (lowerKeys assigned)
  validate (Json.overlayFields (Json.overlayFields fromFile fromEnvironment) given)

end Relabel.Settings
