import Teardown.Api.Input
import Teardown.Api.Route
import Teardown.Database.Health
import Teardown.Task.Runner
import Teardown.Workflow.Client

/-!
# The program interface

Requests describe the service, its health and its deployments, and ask to stop a deployment. A
request to stop is answered as soon as its task is in the queue: `Service.handle` gives the reply
and tells whether one run of the queue is due after it. `Service.serve` replies and then makes
the run that is due.

A failure that no route expects becomes a reply of its own, and a reply to `HEAD` has no body.
-/

namespace Teardown.Api

/-- The parts that requests are answered from. -/
structure Service (m : Type → Type) where
  environmentName : String
  /-- The address of the database, without its password. -/
  target : String
  checkHealth : m (Except Database.HealthError String)
  repository : Repository m
  runner : Runner m

/-- A reply, and whether the queue is due to be run once after it. -/
structure Handled where
  reply : Reply
  runDue : Bool := false
deriving Repr

namespace Service

variable {m : Type → Type} [Monad m] [MonadStateOf Queue m]

/-- Describes the service. -/
def index (s : Service m) : Reply :=
  .object 200 [("service", .str "deploy-worker"), ("status", .str "ready"),
    ("environment", .str s.environmentName)]

/-- Reports the health of the service. -/
def health (s : Service m) : m Reply := do
  let known : Json.Members := [("app", .str "up"), ("target", .str s.target),
    ("task_types", Json.ofTexts s.runner.registry.taskTypes)]
  let state (status database detail : String) : Json.Members :=
    [("status", .str status), ("database", .str database), ("detail", .str detail)]
  match ← s.checkHealth with
  | .ok detail => return .object 200 (known ++ state "ok" "ok" detail)
  | .error .unreachable =>
    let detail := Database.HealthError.unreachable.toFailure.message
    return .object 503 (known ++ state "degraded" "down" detail)
  | .error _ => return .broken

/-- Describes a deployment. -/
def deployment (s : Service m) (id : String) : m Reply := do
  match readId id with
  | .error fault => return .unprocessable [fault]
  | .ok id =>
    match ← s.repository.getDeployment id with
    | .ok d => return ⟨200, .json d.toJson⟩
    | .error (.store cause) =>
      return if cause.isMissing then .refusal 404 "deployment not found" else .broken
    | .error _ => return .broken

/-- Submits the task that stops a deployment. -/
def stop (s : Service m) (id query : String) : m Handled := do
  match StopInput.read id query with
  | .error faults => return { reply := .unprocessable faults }
  | .ok input =>
    let task := input.task
    match ← s.runner.submit task with
    | .ok taskId =>
      return {
        reply := .object 202 [("status", .str "submitted"), ("task_id", .str taskId),
          ("task_type", .str task.taskType)]
        runDue := true }
    | .error (.task cause) =>
      return { reply := if cause.isInvalid then .refusal 400 cause.message else .broken }
    | .error _ => return { reply := .broken }

/-- Follows a route. -/
def follow (s : Service m) (query : String) : Route → m Handled
  | .service => return { reply := s.index }
  | .health => return { reply := ← s.health }
  | .deployment id => return { reply := ← s.deployment id }
  | .stop id => s.stop id query

/-- Replies to a request. -/
def handle (s : Service m) (r : Request) : m Handled := do
  let handled ← match r.resolve with
    | .found route => s.follow r.query route
    | .wrongMethod => pure { reply := .methodNotAllowed }
    | .moved => pure { reply := .moved }
    | .unknown => pure { reply := .notFound }
  if r.method = "HEAD" then return { handled with reply := handled.reply.withoutBody }
  return handled

/-- Replies to a request and makes the run of the queue that is due after the reply. What the
run ends with is recorded in the queue; it does not change the reply. -/
def serve (s : Service m) (r : Request) : m Reply := do
  let handled ← s.handle r
  if handled.runDue then
    let _ ← s.runner.runNext
  return handled.reply

end Service

end Teardown.Api
