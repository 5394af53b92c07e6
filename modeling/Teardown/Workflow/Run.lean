import Teardown.Json.Display

/-!
# Workflow runs

A teardown is carried out by a run of a remote workflow. The handle of a run holds its id and the
address of its page, as the remote service reported them.
-/

namespace Teardown

/-- The id of a workflow run. The service may report a boolean, which then counts as zero or one
and keeps its own display form. -/
inductive RunId where
  | number (n : Int)
  | flag (b : Bool)
deriving DecidableEq, Repr

namespace RunId

/-- The integer by which ids are compared. -/
def value : RunId → Int
  | .number n => n
  | .flag b => if b then 1 else 0

/-- The id that a reported value stands for, if it is an integer or a boolean. -/
def ofJson? : Json → Option RunId
  | .int n => some (.number n)
  | .bool b => some (.flag b)
  | _ => none

/-- The id as a value. -/
def toJson : RunId → Json
  | .number n => .int n
  | .flag b => .bool b

/-- The id in a message. -/
def display (id : RunId) : String :=
  id.toJson.display

end RunId

/-- What the worker keeps of a run that it started. -/
structure RunHandle where
  id : RunId
  url : Json := .null
deriving Repr

/-- The state of a run at one poll. A failed run may come with a cause. -/
inductive RunStatus where
  | pending
  | succeeded
  | failed (cause : Option String)
deriving DecidableEq, Repr

end Teardown
