import Teardown.StopJob

/-!
# Components and what they need

The worker is put together from components. A component is built only when all the parts that it
needs are there; the first missing one, in a fixed order, is named in the refusal.
-/

namespace Teardown

/-- The components of the worker. -/
inductive Component where
  | stopJob
  | runner
  | deploymentService
  | healthService
  | deploymentRoutes
  | healthRoutes
deriving DecidableEq, Repr

/-- The parts that components are built from. -/
inductive Part where
  | repository
  | client
  | queue
  | registry
  | engine
  | runner
  | health
deriving DecidableEq, Repr

namespace Component

/-- The parts that a component needs, in the order in which they are checked, each with the name
that it has in this component. -/
def parts : Component → List (Part × String)
  | .stopJob => [(.repository, "deployment_repository"), (.client, "workflow_client")]
  | .runner => [(.queue, "queue"), (.registry, "registry")]
  | .deploymentService => [(.engine, "engine")]
  | .healthService => [(.engine, "engine")]
  | .deploymentRoutes => [(.repository, "deployment_repository"), (.runner, "job_runner")]
  | .healthRoutes => [(.health, "db_health_service"), (.registry, "task_registry")]

/-- Checks that no part of a component is among the missing ones. -/
def check (c : Component) (missing : List Part) : Except Refusal Unit :=
  match c.parts.find? fun part => missing.contains part.1 with
  | some part => .error (.absent part.2)
  | none => .ok ()

/-- Checks the parts of a stop job, and then its configuration. -/
def checkStopJob {τ : Type} [TimeScale τ] (missing : List Part) (config : StopJob.Config τ) :
    Except Refusal Unit :=
  (check .stopJob missing).bind fun _ => config.check

end Component

end Teardown
