import Teardown.Json.Display

/-!
# The status of a deployment

A deployment that is to be stopped goes from `running` through `stopping` to `stopped` or
`failed`; the other statuses belong to the jobs that create deployments.
-/

namespace Teardown

/-- The life-cycle status of a deployment. -/
inductive Status where
  | created
  | pending
  | running
  | stopping
  | stopped
  | failed
deriving DecidableEq, Repr

namespace Status

/-- Every status, in the order of the life cycle. -/
def all : List Status :=
  [.created, .pending, .running, .stopping, .stopped, .failed]

/-- The text that rows and answers hold for a status. -/
def text : Status → String
  | .created => "created"
  | .pending => "pending"
  | .running => "running"
  | .stopping => "stopping"
  | .stopped => "stopped"
  | .failed => "failed"

/-- The name of a status in capitals. -/
def name : Status → String
  | .created => "CREATED"
  | .pending => "PENDING"
  | .running => "RUNNING"
  | .stopping => "STOPPING"
  | .stopped => "STOPPED"
  | .failed => "FAILED"

/-- The status with a given text. -/
def ofText? (s : String) : Option Status :=
  all.find? fun status => status.text == s

/-- A stop request may act on running deployments only. -/
def isStoppable : Status → Bool
  | .running => true
  | _ => false

theorem ofText?_text (s : Status) : ofText? s.text = some s := by
  cases s <;> decide

end Status

end Teardown
