import FieldRules.Text.Blank
import FieldRules.Text.Basic

namespace FieldRules.Log

inductive Level where
  | trace | debug | info | warn | error | off
  deriving DecidableEq

namespace Level

def name : Level → String
  | trace => "TRACE"
  | debug => "DEBUG"
  | info => "INFO"
  | warn => "WARN"
  | error => "ERROR"
  | off => "OFF"

def rank : Level → Nat
  | trace => 0
  | debug => 1
  | info => 2
  | warn => 3
  | error => 4
  | off => 5

/-- Reads a name in any case, with blanks around it. -/
def ofName? (name : String) : Option Level :=
  match String.ofList (Text.lower (Text.trimBlanks name.toList)) with
  | "trace" => some trace
  | "debug" => some debug
  | "info" => some info
  | "warn" => some warn
  | "warning" => some warn
  | "error" => some error
  | "off" => some off
  | "none" => some off
  | _ => none

end Level

structure Record where
  level : Level
  target : String
  message : String
  fields : List (String × String) := []
  deriving DecidableEq

/-- What decides which records are written. -/
structure State where
  level : Level := .warn
  debug : Bool := false
  deriving DecidableEq

namespace State

/-- Records of the least level and above are written, and none of level `off`. -/
def enables (s : State) (l : Level) : Bool := l != .off && s.level.rank ≤ l.rank

def setLevel (s : State) (l : Level) : State := { s with level := l }

/-- Turning debugging on lowers the level to `debug`; turning it off leaves the level. -/
def setDebug (s : State) (on : Bool) : State :=
  ⟨if on && Level.debug.rank < s.level.rank then .debug else s.level, on⟩

end State
end FieldRules.Log
