/-!
# Log entries

What the worker reports while it runs: a level, the part of the worker that speaks, and a
message.
-/

namespace Teardown.Log

/-- How urgent an entry is. -/
inductive Level where
  | debug
  | info
  | warning
  | error
  | critical
deriving DecidableEq, Repr

namespace Level

/-- The name of a level. -/
def name : Level → String
  | .debug => "DEBUG"
  | .info => "INFO"
  | .warning => "WARNING"
  | .error => "ERROR"
  | .critical => "CRITICAL"

/-- The number of a level; an entry is kept when its number reaches the configured one. -/
def number : Level → Nat
  | .debug => 10
  | .info => 20
  | .warning => 30
  | .error => 40
  | .critical => 50

end Level

/-- One log entry. -/
structure Entry where
  level : Level
  source : String
  message : String
deriving DecidableEq, Repr

end Teardown.Log
