import Teardown.Deployment.Record
import Teardown.Failure
import Teardown.Workflow.Run

/-!
# Surroundings of a teardown

A teardown needs a client that starts and polls workflow runs, a repository of deployments, and a
clock. Each operation may fail in any way.
-/

namespace Teardown

/-- A client of the service that runs teardown workflows. -/
structure WorkflowClient (m : Type → Type) where
  /-- The name of the service. -/
  source : m (Except Failure String)
  start : Instance → m (Except Failure RunHandle)
  poll : RunHandle → m (Except Failure RunStatus)

/-- The stored deployments, as far as a job uses them. -/
structure Repository (m : Type → Type) where
  getDeployment : Int → m (Except Failure Deployment)
  getInstance : Int → m (Except Failure Instance)
  setStatusAndError : Int → Status → Option String → m (Except Failure Unit)

/-- A clock that can be read and waited for. -/
structure Clock (m : Type → Type) (τ : Type) where
  now : m τ
  pause : τ → m Unit

end Teardown
