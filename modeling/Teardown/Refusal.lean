import Teardown.Time.Stamp

/-!
# Refused arguments

An argument outside its range is refused before anything else happens.
-/

namespace Teardown

/-- Why an argument is refused. -/
inductive Refusal where
  /-- A text has nothing in it but blank characters. -/
  | blank (argument : String)
  /-- A number is not above zero. -/
  | notPositive (argument : String)
  /-- A number is below a bound. -/
  | below (argument : String) (bound : Nat)
  /-- A part that a component needs is not there. -/
  | absent (part : String)
  /-- A value is no deployment status; it is shown in display form. -/
  | unknownStatus (shown : String)
  /-- A stored text is no time stamp; it is shown between quotes. -/
  | unreadableStamp (shown : String)
  /-- A stored time stamp has a part outside its range. -/
  | stampOutside (part : Stamp.Part)
  /-- A job does not answer to this name. -/
  | unsupportedJob (name : String)
  /-- A task type has a handler already. -/
  | alreadyRegistered (taskType : String)
  /-- No log level has this name. -/
  | unknownLevel (name : String)
deriving DecidableEq, Repr

/-- The text of a refusal. -/
def Refusal.message : Refusal → String
  | .blank argument => argument ++ " must not be blank"
  | .notPositive argument => argument ++ " must be > 0"
  | .below argument bound => argument ++ " must be >= " ++ toString bound
  | .absent part => part ++ " must not be None"
  | .unknownStatus shown => shown ++ " is not a valid DeploymentStatus"
  | .unreadableStamp shown => "Invalid isoformat string: " ++ shown
  | .stampOutside part => part.rule
  | .unsupportedJob name => "unsupported job_name=" ++ name
  | .alreadyRegistered taskType => "task_type=" ++ taskType ++ " is already registered"
  | .unknownLevel name => "unknown log level: " ++ name

end Teardown
