import Teardown.Deployment.Record
import Teardown.Store.Cell
import Teardown.Store.Error
import Teardown.Time.StampReader

/-!
# The stored tables

The store holds a table of instances and a table of deployments, each sorted by id. Statuses are
kept as the text that was written and time stamps as any value, so that a row can hold a text that
is no status; reading a row checks them. A table can be gone, and the store can refuse to write
some statuses.

This module is the level of single statements. A statement fails when its table is gone or when
the storage refuses the write, and it cannot be bound to an id outside 64 bits.
-/

namespace Teardown

namespace Store

/-- A stored instance. -/
structure InstanceRow where
  id : Int
  slug : String
  created : Cell
deriving DecidableEq, Repr

/-- A stored deployment. -/
structure DeploymentRow where
  id : Int
  instanceId : Int
  status : String
  error : Option String
  created : Cell
  updated : Cell
deriving DecidableEq, Repr

end Store

/-- The content of the storage; a table that is gone is `none`. -/
structure Store where
  instances : Option (List Store.InstanceRow)
  deployments : Option (List Store.DeploymentRow)
  /-- The statuses that the storage refuses to write. -/
  refused : List String := []
deriving DecidableEq, Repr

namespace Store

/-- The freshly prepared storage. -/
def empty : Store where
  instances := some []
  deployments := some []

/-- A storage that cannot be reached. -/
def unreachable : Store where
  instances := none
  deployments := none

/-- Why a statement is not executed. -/
inductive Fault where
  | failed
  | idTooLarge
deriving DecidableEq, Repr

/-- The failure of an operation whose statement was not executed. -/
def Fault.toError (failed : Error) : Fault → Error
  | .failed => failed
  | .idTooLarge => .idTooLarge

/-- Whether an id can be bound to a statement. -/
def idFits (id : Int) : Bool :=
  -idLimit ≤ id && id < idLimit

/-- The row of a deployment. -/
def selectDeployment (s : Store) (id : Int) : Except Fault (Option DeploymentRow) :=
  match s.deployments with
  | none => .error .failed
  | some rows => if idFits id then .ok (rows.find? (·.id == id)) else .error .idTooLarge

/-- The row of an instance. -/
def selectInstance (s : Store) (id : Int) : Except Fault (Option InstanceRow) :=
  match s.instances with
  | none => .error .failed
  | some rows => if idFits id then .ok (rows.find? (·.id == id)) else .error .idTooLarge

/-- What an update writes: a status, and perhaps a new error text. -/
structure Assignment where
  status : Status
  /-- The outer option says whether the error text is written at all. -/
  error : Option (Option String) := none
deriving DecidableEq, Repr

/-- The row after an update at the moment `now`. -/
def Assignment.apply (a : Assignment) (now : String) (row : DeploymentRow) : DeploymentRow :=
  { row with status := a.status.text, error := a.error.getD row.error, updated := now }

/-- Updates the row of a deployment and returns the number of rows that matched. -/
def updateDeployment (now : String) (id : Int) (a : Assignment) (s : Store) :
    Except Fault Nat × Store :=
  match s.deployments with
  | none => (.error .failed, s)
  | some rows =>
    if idFits id then
      let matched := (rows.filter (·.id == id)).length
      if matched = 0 then (.ok 0, s)
      else if s.refused.contains a.status.text then (.error .failed, s)
      else
        let updated := rows.map fun row => if row.id == id then a.apply now row else row
        (.ok matched, { s with deployments := some updated })
    else (.error .idTooLarge, s)

/-- The stamp that a stored value writes; only a text can write one. -/
def readStamp : Cell → Except Error Stamp
  | .text text =>
    match Stamp.read text with
    | .ok stamp => .ok stamp
    | .error .malformed => .error (.refused (.unreadableStamp (Text.quoted text)))
    | .error (.outside part) => .error (.refused (.stampOutside part))
  | .integer _ | .real _ | .blob _ => .error .stampNotText

/-- The deployment that a row describes. -/
def DeploymentRow.read (row : DeploymentRow) : Except Error Deployment := do
  let createdAt ← readStamp row.created
  let updatedAt ← readStamp row.updated
  match Status.ofText? row.status with
  | some status => return ⟨row.id, row.instanceId, status, row.error, createdAt, updatedAt⟩
  | none => throw (.statusUnknown row.id row.status)

/-- The instance that a row describes. -/
def InstanceRow.read (row : InstanceRow) : Except Error Instance := do
  let createdAt ← readStamp row.created
  return ⟨row.id, row.slug, createdAt⟩

/-- The rows of the deployments for inspection, null when their table is gone. Stamps are shown
as `present` shows them. -/
def dump (present : String → String) (s : Store) : Json :=
  match s.deployments with
  | none => .null
  | some rows => .arr (rows.map fun row =>
      .arr [.int row.id, .int row.instanceId, .str row.status, Json.ofText? row.error,
        row.updated.shown present])

end Store

end Teardown
