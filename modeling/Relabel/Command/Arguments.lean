import Relabel.Command.Folder

/-!
# Arguments

What can be asked for on the command line. Switches stand anywhere among the arguments of a
command. A long one takes its value after an equals sign or from the next argument; short ones may
be written together, and the rest of the word is the value of the first that takes one. After a
double dash no switch follows.
-/

namespace Relabel.Command

inductive Switch where
  | output | lead | quiet | debug | debugFile | version | help
deriving Repr, DecidableEq

/-- How a switch is written. -/
structure Form where
  switch : Switch
  long : String
  short : Option Char := none
  takesValue : Bool := false
deriving Repr, DecidableEq

inductive UsageFault where
  | unknownSwitch (spelling : String)
  | valueMissing (spelling : String)
  | valueUnwanted (spelling : String)
  | unknownCommand (name : String)
  | argumentMissing
  | pathMissing (noun path : String)
  | pathIsDirectory (noun path : String)
  | extraArguments (arguments : List String)
deriving Repr, DecidableEq

def UsageFault.message : UsageFault → String
  | unknownSwitch spelling => "No such option " ++ Text.quote spelling ++ "."
  | valueMissing spelling => "Option " ++ Text.quote spelling ++ " requires an argument."
  | valueUnwanted spelling => "Option " ++ Text.quote spelling ++ " does not take a value."
  | unknownCommand name => "No such command " ++ Text.quote name ++ "."
  | argumentMissing => "Missing argument 'INPUT_PATH'."
  | pathMissing noun path =>
    "Invalid value for 'INPUT_PATH': " ++ noun ++ " " ++ Text.quote path ++ " does not exist."
  | pathIsDirectory noun path =>
    "Invalid value for 'INPUT_PATH': " ++ noun ++ " " ++ Text.quote path ++ " is a directory."
  | extraArguments arguments =>
    "Got unexpected extra argument" ++ (if arguments.length = 1 then "" else "s") ++ " (" ++
      " ".intercalate arguments ++ ")"

/-- Whether a fault is told without a word on usage. -/
def UsageFault.isBare : UsageFault → Bool
  | valueMissing _ => true
  | valueUnwanted _ => true
  | _ => false

/-- Switches with their values, in the order in which they were given, and all other arguments. -/
structure Arguments where
  switches : List (Switch × Option String) := []
  others : List String := []
deriving Repr, DecidableEq

namespace Arguments

/-- Whether a switch was given. -/
def has (a : Arguments) (switch : Switch) : Bool :=
  a.switches.any (·.1 == switch)

/-- The last value given with a switch. -/
def value? (a : Arguments) (switch : Switch) : Option String :=
  (a.switches.reverse.lookup switch).join

abbrev Reading := Except UsageFault (List (Switch × Option String) × List String)

/-- Takes the value of a switch from the arguments after it. -/
def valueFrom (form : Form) (spelling : String) : List String → Reading
  | [] => .error (.valueMissing spelling)
  | value :: rest => .ok ([(form.switch, some value)], rest)

/-- Reads the letters of a word of short switches. -/
def readShort (forms : List Form) (rest : List String) : List Char → Reading
  | [] => .ok ([], rest)
  | c :: cs =>
    let spelling := String.ofList ['-', c]
    match forms.find? (·.short == some c) with
    | none => .error (.unknownSwitch spelling)
    | some form =>
      if form.takesValue then
        if cs.isEmpty then valueFrom form spelling rest
        else .ok ([(form.switch, some (String.ofList cs))], rest)
      else do
        let (switches, rest) ← readShort forms rest cs
        return ((form.switch, none) :: switches, rest)

/-- Reads one word that starts with a dash, and its value. -/
def readSwitch (forms : List Form) (word : List Char) (rest : List String) : Reading :=
  let name := word.takeWhile (· != '=')
  let value? : Option String :=
    if name.length = word.length then none else some (String.ofList (word.drop (name.length + 1)))
  let spelling := String.ofList name
  match forms.find? (·.long == spelling) with
  | some form =>
    match form.takesValue, value? with
    | true, some value => .ok ([(form.switch, some value)], rest)
    | true, none => valueFrom form spelling rest
    | false, some _ => .error (.valueUnwanted spelling)
    | false, none => .ok ([(form.switch, none)], rest)
  | none =>
    if ['-', '-'].isPrefixOf word then .error (.unknownSwitch spelling)
    else readShort forms rest (word.drop 1)

/-- Reads arguments, no more of them than the fuel. If switches may not stand after other
arguments, reading stops at the first of those. -/
def readFrom (forms : List Form) (anywhere : Bool) : Nat → List String →
    Except UsageFault Arguments
  | 0, _ => .ok {}
  | _, [] => .ok {}
  | fuel + 1, word :: rest =>
    if word = "--" then .ok { others := rest }
    else if word.startsWith "-" && 1 < word.length then do
      let (switches, rest) ← readSwitch forms word.toList rest
      let more ← readFrom forms anywhere fuel rest
      return { more with switches := switches ++ more.switches }
    else if anywhere then do
      let more ← readFrom forms anywhere fuel rest
      return { more with others := word :: more.others }
    else .ok { others := word :: rest }

def read (forms : List Form) (anywhere : Bool) (words : List String) :
    Except UsageFault Arguments :=
  readFrom forms anywhere words.length words

end Arguments

end Relabel.Command
