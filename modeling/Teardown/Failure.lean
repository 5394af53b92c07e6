import Teardown.Database.Url
import Teardown.Settings.Error
import Teardown.Store.Error
import Teardown.Task.Error
import Teardown.Workflow.Error

/-!
# Failures

Everything that can end an operation before its result: a refused argument, a failure of the
storage, of a workflow run or of a task, settings or a database address that do not hold, a queue
that does not know a task, a failure handed in from outside under its own name, and an interrupt.
An interrupt is not handled by anything in the worker: it ends whatever is running.
-/

namespace Teardown

/-- The end of an operation that did not succeed. -/
inductive Failure where
  | refused (reason : Refusal)
  | store (cause : Store.Error)
  | workflow (error : Workflow.Error)
  | task (cause : Task.Error)
  | settings (cause : Settings.Error)
  | database (cause : Database.UrlError)
  /-- A task that is not being worked on was acknowledged. -/
  | notInFlight (taskId : String)
  /-- A failure known by the name of its kind and its text only. -/
  | named (kind message : String)
  /-- A request to stop at once. -/
  | interrupt (kind message : String)
deriving DecidableEq, Repr

namespace Failure

/-- The kind of a failure, as answers name it. -/
def kind : Failure → String
  | .refused _ => "ValueError"
  | .store cause => cause.kind
  | .workflow error => error.cause.kind.name
  | .task cause => cause.kind
  | .settings _ => Settings.Error.kind
  | .database cause => cause.kind
  | .notInFlight _ => "LookupError"
  | .named kind _ => kind
  | .interrupt kind _ => kind

/-- The text of a failure. -/
def message : Failure → String
  | .refused reason => reason.message
  | .store cause => cause.message
  | .workflow error => error.cause.message
  | .task cause => cause.message
  | .settings cause => cause.message
  | .database cause => cause.message
  | .notInFlight taskId => "task " ++ taskId ++ " is not in flight"
  | .named _ message => message
  | .interrupt _ message => message

/-- Kind and text in one line. -/
def line (f : Failure) : String :=
  f.kind ++ ": " ++ f.message

/-- Whether the failure is an interrupt. -/
def isInterrupt : Failure → Bool
  | .interrupt _ _ => true
  | _ => false

end Failure

instance : Coe Store.Error Failure := ⟨.store⟩

instance : Coe Task.Error Failure := ⟨.task⟩

end Teardown
