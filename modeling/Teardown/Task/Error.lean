import Teardown.Validation

/-!
# What can go wrong with a task

A task may name a type that nothing handles, and its descriptor or its payload may be invalid.
-/

namespace Teardown.Task

/-- Why a task is not accepted or cannot be run. -/
inductive Error where
  | unknownType (taskType : String)
  | invalidDescriptor (report : Report)
  | invalidPayload (taskType : String) (report : Report)
  /-- A descriptor that cannot be formed at all. -/
  | malformed (report : Report)
deriving DecidableEq, Repr

namespace Error

/-- The kind of a failure, as answers name it. -/
def kind : Error → String
  | .unknownType _ => "UnknownJobTaskError"
  | .invalidDescriptor _ => "InvalidJobTaskError"
  | .invalidPayload _ _ => "InvalidJobTaskError"
  | .malformed _ => "ValidationError"

/-- The text of a failure. -/
def message : Error → String
  | .unknownType taskType => "no handler registered for task_type=" ++ taskType
  | .invalidDescriptor report => "invalid task descriptor: " ++ report.text
  | .invalidPayload taskType report =>
    "invalid payload for task_type=" ++ taskType ++ ": " ++ report.text
  | .malformed report => report.text

/-- Whether the failure says that a descriptor or a payload is invalid. -/
def isInvalid : Error → Bool
  | .invalidDescriptor _ => true
  | .invalidPayload _ _ => true
  | _ => false

end Error

end Teardown.Task
