import Teardown.Log
import Teardown.Refusal
import Teardown.Text.Blank
import Teardown.Text.Capital

/-!
# Log setup

The log keeps the entries from a level on, which is given by its name in any case. The library
that sends requests reports every request, so its own entries are kept from `WARNING` on at the
earliest.
-/

namespace Teardown.Log

/-- How the log of the process is set up. -/
structure Setup where
  /-- The number of the level from which entries are kept. -/
  threshold : Nat
deriving DecidableEq, Repr

namespace Setup

/-- The names of levels with their numbers. -/
def levels : List (String × Nat) :=
  [("CRITICAL", 50), ("FATAL", 50), ("ERROR", 40), ("WARN", 30), ("WARNING", 30), ("INFO", 20),
    ("DEBUG", 10), ("NOTSET", 0)]

/-- The setup for a level name, by default `INFO`. -/
def ofName (name : String := "INFO") : Except Refusal Setup :=
  match levels.lookup (Text.capitalize (Text.strip name)) with
  | some number => .ok ⟨number⟩
  | none => .error (.unknownLevel name)

/-- The number of the level from which reports on requests are kept. -/
def requestThreshold (s : Setup) : Nat :=
  max s.threshold Level.warning.number

/-- The layout of a written entry. -/
def format : String := "%(asctime)s %(levelname)s [%(name)s] %(message)s"

/-- Whether an entry is kept. -/
def keeps (s : Setup) (e : Entry) : Bool :=
  s.threshold ≤ e.level.number

end Setup

end Teardown.Log
