import AccessControl.Value.Basic

/-!
# Log events

What the library reports while it works: a level, the name of the reporting part, a
message, and values by name.
-/

namespace AccessControl

/-- The levels of importance. -/
inductive LogLevel where
  | debug
  | info
  | warning
  | error
  | critical
  deriving DecidableEq, Inhabited

namespace LogLevel

/-- All levels, least important first. -/
def all : List LogLevel := [.debug, .info, .warning, .error, .critical]

/-- The name of a level. -/
def name : LogLevel → String
  | .debug => "DEBUG"
  | .info => "INFO"
  | .warning => "WARNING"
  | .error => "ERROR"
  | .critical => "CRITICAL"

/-- The rank of a level. -/
def rank : LogLevel → Nat
  | .debug => 10
  | .info => 20
  | .warning => 30
  | .error => 40
  | .critical => 50

/-- The level of a name. -/
def ofName? (name : String) : Option LogLevel := all.find? (·.name == name)

end LogLevel

/-- A reported event; `exception` is the class of the error that it reports. -/
structure LogEvent where
  level : LogLevel
  source : String
  message : String
  extra : List (String × Value) := []
  exception : Option String := none
  deriving Inhabited

end AccessControl
