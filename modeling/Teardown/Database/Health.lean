import Teardown.Database.Url
import Teardown.Decimal.Round
import Teardown.Failure

/-!
# The health of a database

A database is healthy when it answers a trivial query. The report tells how long the answer took,
in whole milliseconds, so both clock readings have to be finite.
-/

namespace Teardown.Database

/-- Why a database is not reported as healthy. -/
inductive HealthError where
  | unreachable
  | latencyUndefined
  | latencyInfinite
deriving DecidableEq, Repr

/-- The failure that a health error amounts to. -/
def HealthError.toFailure : HealthError → Failure
  | .unreachable => .named "ConnectionError" "database connectivity check failed"
  | .latencyUndefined => .named "ValueError" "cannot convert float NaN to integer"
  | .latencyInfinite => .named "OverflowError" "cannot convert float infinity to integer"

/-- The whole milliseconds between two clock readings. -/
def latency (before after : Float) : Except HealthError Int :=
  let millis := (after - before) * 1000.0
  match Decimal.integerPart? millis with
  | some n => .ok n
  | none => .error (if millis.isNaN then .latencyUndefined else .latencyInfinite)

/-- Checks a database that either answers or not; a database that answers is described by a
text. -/
def checkHealth (answers : Bool) (before after : Float) : Except HealthError String :=
  if answers then
    (latency before after).map fun n =>
      "database connectivity verified in " ++ toString n ++ " ms"
  else .error .unreachable

/-- Whether the database at a location answers, where `holds` tells which directories exist. -/
def Url.Location.answers (holds : String → Bool) : Url.Location → Bool
  | .memory => true
  | .file path =>
    match splitLast '/' path.toList with
    | none => true
    | some (directory, _) => holds (String.ofList directory)
  | .remote => false

end Teardown.Database
