import Teardown.Task.Envelope

/-!
# Requests to stop a deployment

The payload of a stopping task names a deployment and says how long to wait for the teardown and
how often to look at it. Both spans have to be positive and have defaults.
-/

namespace Teardown

/-- The validated payload of a stopping task. -/
structure StopRequest where
  deploymentId : Int
  timeout : Float
  interval : Float
deriving Repr

namespace StopRequest

/-- The type of stopping tasks, which is also the name of their job. -/
def taskType : String := "stopping"

/-- The name of the model in reports. -/
def model : String := "StoppingTaskPayload"

/-- The keys of the payload, in the order of its fields. -/
def deploymentKey : String := "deployment_id"

/-- The key of the longest wait. -/
def timeoutKey : String := "workflow_timeout_seconds"

/-- The key of the pause between two looks. -/
def intervalKey : String := "workflow_check_interval_seconds"

/-- The longest wait when none is given, in seconds. -/
def defaultTimeout : Float := 600.0

/-- The pause between two looks when none is given, in seconds. -/
def defaultInterval : Float := 5.0

/-- A positive span among the members of an object. -/
def readSpan (key : String) (default : Float) (members : Json.Members) : Except Issue Float :=
  match Json.member? key members with
  | none => .ok default
  | some v => (Validation.float v).bind Validation.positive

/-- The id of the deployment among the members of an object. -/
def readDeploymentId (members : Json.Members) : Except Issue Int :=
  match Json.member? deploymentKey members with
  | none => .error .missing
  | some v => Validation.integer v

/-- Reads a request from the payload of a task. -/
def ofMembers (members : Json.Members) : Except Report StopRequest :=
  let id := readDeploymentId members
  let timeout := readSpan timeoutKey defaultTimeout members
  let interval := readSpan intervalKey defaultInterval members
  let issues := Field.issues (deploymentKey, id) ++ Field.issues (timeoutKey, timeout) ++
    Field.issues (intervalKey, interval) ++
    Envelope.unknownKeys [deploymentKey, timeoutKey, intervalKey] members
  match id, timeout, interval, issues with
  | .ok id, .ok timeout, .ok interval, [] => .ok ⟨id, timeout, interval⟩
  | _, _, _, issues => .error ⟨model, issues⟩

/-- The fields of a request under their keys. -/
def fields (r : StopRequest) : Json.Members :=
  [(deploymentKey, .int r.deploymentId), (timeoutKey, .float r.timeout),
    (intervalKey, .float r.interval)]

/-- The task that stops a deployment. A span that is left out takes its default when the task is
validated; an override that is given is kept as it is, whatever its value. -/
def task (deploymentId : Json) (timeout interval : Option Json) : Envelope where
  taskType := taskType
  payload := (deploymentKey, deploymentId) ::
    ((timeout.map fun v => (timeoutKey, v)).toList ++
      (interval.map fun v => (intervalKey, v)).toList)

end StopRequest

end Teardown
