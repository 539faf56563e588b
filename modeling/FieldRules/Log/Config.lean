import FieldRules.Log.Render

namespace FieldRules

/-- Variables and their values. -/
abbrev Environment := List (String × String)

namespace Environment

def get? (env : Environment) (name : String) : Option String := env.lookup name

def isTruthy (value : String) : Bool :=
  value == "1" || Text.lower value.toList == "true".toList

/-- A switch; a variable that is not set leaves it at `default`. -/
def switch (env : Environment) (name : String) (default : Bool) : Bool :=
  ((env.get? name).map isTruthy).getD default

/-- The value of a variable that holds more than blanks. -/
def nonBlank? (env : Environment) (name : String) : Option String :=
  (env.get? name).filter fun v => Text.trimBlanks v.toList != []

end Environment

namespace Log

structure Config where
  debug : Bool := false
  level : Level := .warn
  format : Format := .compact
  timestamps : Bool := true
  color : Bool := false
  deriving DecidableEq

/-- Settings that cannot be read are as if they were not there. Debugging lowers the level if none
is given. -/
def Config.ofEnvironment (env : Environment) : Config :=
  let debug := env.switch "RULEBOOK_DEBUG" false
  { debug
    level := ((env.get? "RULEBOOK_LOG_LEVEL").bind Level.ofName?).getD
      (if debug then .debug else .warn)
    format := ((env.get? "RULEBOOK_LOG_FORMAT").bind Format.ofName?).getD .compact
    timestamps := env.switch "RULEBOOK_LOG_TIMESTAMPS" true
    color := env.switch "RULEBOOK_LOG_COLOR" false }

def Config.state (c : Config) : State := ⟨c.level, c.debug⟩

end Log
end FieldRules
