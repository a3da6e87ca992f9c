import HealthAlert.Value.Basic

/-!
# Log rows

What the service writes to its log: the level, the name of the logger, a message, and fields.
-/

namespace HealthAlert.Log

/-- How grave a log row is. -/
inductive Level where
  | info
  | warning
  | error
  deriving DecidableEq, Repr

/-- The name of a level. -/
def Level.name : Level → String
  | .info => "INFO"
  | .warning => "WARNING"
  | .error => "ERROR"

/-- The number of a level; a logger writes the rows at or above its own level. -/
def Level.number : Level → Nat
  | .info => 20
  | .warning => 30
  | .error => 40

/-- A row of the log. -/
structure Row where
  level : Level
  logger : String
  message : String
  fields : List (String × Value) := []
  deriving Repr

end HealthAlert.Log
