import Teardown.Store.Table

/-!
# Changes from outside

Other programs write to the same tables. Their changes obey the constraints of the tables: ids
and slugs are unique, an instance belongs to one deployment at most, a deployment has one of the
known statuses, and only the error text may be absent. A change that violates a constraint leaves
the store as it is. `forceStatus` is the exception: it writes any text as a status.
-/

namespace Teardown.Store

/-- A value for a column: a value, the absence of one, or the choice to leave the column to its
default. -/
inductive Column (α : Type) where
  | given (a : α)
  | absent
  | omitted
deriving DecidableEq, Repr

namespace Column

/-- The value to store, where `default` is that of the column. -/
def orDefault {α : Type} (default : Option α) : Column α → Option α
  | .given a => some a
  | .absent => none
  | .omitted => default

end Column

/-- The columns of a new instance. -/
structure InstanceDraft where
  id : Int
  slug : Option String
  created : Column String
deriving DecidableEq, Repr

/-- The columns of a new deployment. -/
structure DeploymentDraft where
  id : Column Int
  instanceId : Column Int
  status : Column String
  error : Option String
  created : Column String
  updated : Column String
deriving DecidableEq, Repr

/-- A change that another program makes. -/
inductive Change where
  | insertInstance (draft : InstanceDraft)
  | insertDeployment (draft : DeploymentDraft)
  /-- Both inserts as one. -/
  | seed (inst : InstanceDraft) (deployment : DeploymentDraft)
  | deleteInstance (id : Int)
  | deleteDeployment (id : Int)
  | forceStatus (id : Int) (status : String)
  | dropInstances
  | dropDeployments
  | refuseWrites (statuses : List String)
  | acceptWrites (statuses : List String)
deriving DecidableEq, Repr

/-- Inserts a row before the first row with a larger id. -/
def insertById {α : Type} (idOf : α → Int) (row : α) : List α → List α
  | [] => [row]
  | r :: rest => if idOf row < idOf r then row :: r :: rest else r :: insertById idOf row rest

/-- The store with a new instance, if the constraints admit it. -/
def insertInstance (now : String) (draft : InstanceDraft) (s : Store) : Option Store := do
  let rows ← s.instances
  let slug ← draft.slug
  let created ← draft.created.orDefault (some now)
  if rows.any fun row => row.id == draft.id || row.slug == slug then none
  let row : InstanceRow := ⟨draft.id, slug, Cell.ofText created⟩
  return { s with instances := some (insertById InstanceRow.id row rows) }

/-- The id after the largest one, given to a deployment that leaves it open; rows are sorted by
id. -/
def nextId (rows : List DeploymentRow) : Int :=
  match rows.getLast? with
  | some row => row.id + 1
  | none => 1

/-- The store with a new deployment, if the constraints admit it. -/
def insertDeployment (now : String) (draft : DeploymentDraft) (s : Store) : Option Store := do
  let rows ← s.deployments
  let id ← draft.id.orDefault (some (nextId rows))
  let instanceId ← draft.instanceId.orDefault none
  let status ← draft.status.orDefault (some Status.created.text)
  let created ← draft.created.orDefault (some now)
  let updated ← draft.updated.orDefault (some now)
  if (Status.ofText? status).isNone then none
  if rows.any fun row => row.id == id || row.instanceId == instanceId then none
  let row : DeploymentRow :=
    ⟨id, instanceId, status, draft.error, Cell.ofText created, Cell.ofText updated⟩
  return { s with deployments := some (insertById DeploymentRow.id row rows) }

/-- The store after a change; nothing when a constraint is violated. -/
def Change.apply? (now : String) (s : Store) : Change → Option Store
  | .insertInstance draft => s.insertInstance now draft
  | .insertDeployment draft => s.insertDeployment now draft
  | .seed inst deployment =>
    (s.insertInstance now inst).bind fun t => t.insertDeployment now deployment
  | .deleteInstance id =>
    some { s with instances := s.instances.map fun rows => rows.filter (·.id != id) }
  | .deleteDeployment id =>
    some { s with deployments := s.deployments.map fun rows => rows.filter (·.id != id) }
  | .forceStatus id status =>
    let present := (s.deployments.getD []).any (·.id == id)
    if present && s.refused.contains status then none
    else
      some { s with
        deployments := s.deployments.map fun rows =>
          rows.map fun row => if row.id == id then { row with status := status } else row }
  | .dropInstances => some { s with instances := none }
  | .dropDeployments => some { s with deployments := none }
  | .refuseWrites statuses => some { s with refused := s.refused ++ statuses }
  | .acceptWrites statuses =>
    some { s with refused := s.refused.filter fun status => !statuses.contains status }

end Teardown.Store
