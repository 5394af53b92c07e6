import Teardown.Workflow.Run

/-!
# What can go wrong with a workflow run

A call to the remote service fails, a run ends without success, or a run does not end in time.
Each failure may carry the id of the run that it concerns.
-/

namespace Teardown.Workflow

/-- Why one request to the remote service has no usable answer. -/
inductive RequestFault where
  | timedOut
  | rejected (status : Nat)
  | transport
  | malformed
deriving DecidableEq, Repr

/-- The end of a sentence about a request. -/
def RequestFault.text : RequestFault → String
  | .timedOut => "timed out"
  | .rejected status => "returned HTTP " ++ toString status
  | .transport => "transport failed"
  | .malformed => "returned invalid JSON"

/-- The kinds of failures around workflow runs. -/
inductive ErrorKind where
  | adapter
  | call
  | runFailed
  | timedOut
deriving DecidableEq, Repr

namespace ErrorKind

/-- Every kind. -/
def all : List ErrorKind :=
  [.adapter, .call, .runFailed, .timedOut]

/-- The name of a kind in answers. -/
def name : ErrorKind → String
  | .adapter => "WorkflowAdapterError"
  | .call => "WorkflowCallError"
  | .runFailed => "WorkflowRunFailedError"
  | .timedOut => "WorkflowWaitTimeoutError"

/-- The kind with a given name. -/
def ofName? (name : String) : Option ErrorKind :=
  all.find? fun kind => kind.name == name

end ErrorKind

/-- The cause of a failure around a workflow run. -/
inductive Cause where
  | blankSlug
  | request (method path : String) (fault : RequestFault)
  | runListMissing
  | runNotObject
  | runNotFound (workflow slug : String) (attempts : Int)
  | runFailed (cause : String)
  | timedOut (elapsed : String) (run : RunId) (timeout : String)
  /-- A failure in the words of the client that reports it. -/
  | stated (kind : ErrorKind) (text : String)
deriving DecidableEq, Repr

namespace Cause

/-- The kind of a cause. -/
def kind : Cause → ErrorKind
  | .runFailed _ => .runFailed
  | .timedOut _ _ _ => .timedOut
  | .stated kind _ => kind
  | _ => .call

/-- The text of a cause. -/
def message : Cause → String
  | .blankSlug => "instance slug must not be blank"
  | .request method path fault => "GitHub API " ++ method ++ " " ++ path ++ " " ++ fault.text
  | .runListMissing => "workflow run list payload is missing `workflow_runs`"
  | .runNotObject => "workflow run payload must be a JSON object"
  | .runNotFound workflow slug attempts =>
    "dispatched workflow '" ++ workflow ++ "' run for instance '" ++ slug ++
      "' was not found after " ++ toString attempts ++ " lookup attempt(s)"
  | .runFailed cause => cause
  | .timedOut elapsed run timeout =>
    "timed out after " ++ elapsed ++ " seconds waiting for workflow run " ++ run.display ++
      " (timeout " ++ timeout ++ " seconds)"
  | .stated _ text => text

end Cause

/-- A failure around a workflow run. -/
structure Error where
  cause : Cause
  run : Option RunId := none
deriving DecidableEq, Repr

end Teardown.Workflow
