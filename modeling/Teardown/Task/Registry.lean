import Teardown.Task.Envelope
import Teardown.Timeline

/-!
# The registry of task handlers

A registry maps each task type to the handler that validates payloads of that type and builds
jobs from them. Types are registered without the blank characters around them and only once; a
task is looked up by its type as it stands.
-/

namespace Teardown

/-- What a job reports when it ends by itself. -/
structure JobResult where
  jobName : String
  status : String
  timeline : Timeline
deriving Repr

/-- How the execution of a job ends. A job that waits for ever does not end within any horizon. -/
inductive JobEnd where
  | returned (result : JobResult)
  | raised (failure : Failure)
  | unfinished
deriving Repr

/-- A job is executed under a name. -/
abbrev Job (m : Type → Type) := String → m JobEnd

/-- A payload that was accepted: its validated fields and the job built from it. -/
structure Prepared (m : Type → Type) where
  fields : Json.Members
  build : Except Failure (Job m)

/-- A handler accepts payloads or reports what is wrong with them. -/
abbrev Handler (m : Type → Type) := Json.Members → Except Report (Prepared m)

/-- The handlers by task type. -/
structure Registry (m : Type → Type) where
  handlers : List (String × Handler m) := []

namespace Registry

variable {m : Type → Type}

/-- The handler of a task type. -/
def lookup (r : Registry m) (taskType : String) : Option (Handler m) :=
  r.handlers.lookup taskType

/-- Adds the handler of a task type; a blank type, or one that has a handler, is refused. -/
def register (r : Registry m) (taskType : String) (handler : Handler m) :
    Except Refusal (Registry m) :=
  let name := Text.strip taskType
  if name = "" then .error (.blank "task_type")
  else if (r.lookup name).isSome then .error (.alreadyRegistered name)
  else .ok ⟨r.handlers ++ [(name, handler)]⟩

/-- The registered task types in ascending order. -/
def taskTypes (r : Registry m) : List String :=
  (r.handlers.map Prod.fst).mergeSort fun a b => a ≤ b

/-- Validates the payload of a task with the handler of its type. -/
def prepare (r : Registry m) (e : Envelope) : Except Task.Error (Prepared m) :=
  match r.lookup e.taskType with
  | none => .error (.unknownType e.taskType)
  | some handler =>
    match handler e.payload with
    | .ok prepared => .ok prepared
    | .error report => .error (.invalidPayload e.taskType report)

/-- The validated fields of a task. -/
def validate (r : Registry m) (e : Envelope) : Except Task.Error Json.Members :=
  (r.prepare e).map Prepared.fields

/-- Builds the job of a task. -/
def build (r : Registry m) (e : Envelope) : Except Failure (Job m) :=
  match r.prepare e with
  | .ok prepared => prepared.build
  | .error cause => .error (.task cause)

end Registry

end Teardown
