import Teardown.Store.Operation
import Teardown.Workflow.Client

/-!
# The repository over a store

A store that is kept as state serves as the repository of jobs. Rows are stamped with the moment
at which they are written.
-/

namespace Teardown.Store

variable {m : Type → Type} [Monad m] [MonadStateOf Store m]

/-- Runs an operation on the store that is kept as state. -/
def perform {α : Type} (operation : Session α) : m (Except Failure α) :=
  modifyGetThe Store fun s =>
    let (result, t) := operation s
    (result.mapError Failure.store, t)

/-- Answers a question about the store that is kept as state. -/
def inspect {α : Type} (question : Store → Except Error α) : m (Except Failure α) := do
  return (question (← getThe Store)).mapError Failure.store

/-- The repository over the store that is kept as state; `now` is the stamp for rows. -/
def repository (now : m String) : Repository m where
  getDeployment id := inspect (getDeployment id)
  getInstance id := inspect (getInstance id)
  setStatusAndError id status error := do
    let result ← perform (setStatusAndError (← now) id status error)
    return result.map fun _ => ()

end Teardown.Store
