import Relabel.Data.Json

/-!
# Records of a log

A record has the time, a level and a message, and may have data on the lines after it.
-/

namespace Relabel.Command

inductive Level where
  | debug | info | error
deriving Repr, DecidableEq

/-- The name of a level, filled up to eight characters. -/
def Level.label : Level → String
  | debug => "DEBUG   "
  | info => "INFO    "
  | error => "ERROR   "

structure Record where
  level : Level
  message : String
  data : Option Json := none

def Record.text (time : String) (r : Record) : String :=
  let data := match r.data with
    | some value => "\n" ++ value.render
    | none => ""
  time ++ " | " ++ r.level.label ++ " | " ++ r.message ++ data ++ "\n"

end Relabel.Command
