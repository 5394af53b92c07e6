import Teardown.Store.Table

/-!
# Operations on stored deployments

Every operation is one transaction: when it fails, for whatever reason, the store is as it was
before. An update that matches no row says that the deployment is missing; one that succeeds
returns the row as it is read back.
-/

namespace Teardown.Store

/-- Steps inside one transaction: they see what they wrote so far. -/
abbrev Session (α : Type) := Store → Except Error α × Store

/-- Runs the steps of a transaction; what they wrote stays only if all of them succeed. -/
def transact {α : Type} (body : Session α) : Session α := fun s =>
  match body s with
  | (.ok a, t) => (.ok a, t)
  | (.error e, _) => (.error e, s)

/-- The deployment with an id, with `unreadable` for a statement that fails. -/
def fetchDeployment (unreadable : Error) (id : Int) (s : Store) : Except Error Deployment :=
  match s.selectDeployment id with
  | .error fault => .error (fault.toError unreadable)
  | .ok none => .error (.deploymentMissing id)
  | .ok (some row) => row.read

/-- The deployment with an id. -/
def getDeployment (id : Int) (s : Store) : Except Error Deployment :=
  s.fetchDeployment (.deploymentUnreadable id) id

/-- The instance with an id. -/
def getInstance (id : Int) (s : Store) : Except Error Instance :=
  match s.selectInstance id with
  | .error fault => .error (fault.toError (.instanceUnreadable id))
  | .ok none => .error (.instanceMissing id)
  | .ok (some row) => row.read

/-- The steps of an update: write, check that a row matched, read the row back. -/
def updateSteps (now : String) (id : Int) (a : Assignment) : Session Deployment := fun s =>
  match s.updateDeployment now id a with
  | (.error fault, t) => (.error (fault.toError (.deploymentUnwritable id)), t)
  | (.ok 0, t) => (.error (.deploymentMissing id), t)
  | (.ok _, t) => (t.fetchDeployment (.deploymentUnwritable id) id, t)

/-- Writes a status and keeps the error text. -/
def updateStatus (now : String) (id : Int) (status : Status) : Session Deployment :=
  transact (updateSteps now id ⟨status, none⟩)

/-- Writes a status together with an error text, or with none. -/
def setStatusAndError (now : String) (id : Int) (status : Status) (error : Option String) :
    Session Deployment :=
  transact (updateSteps now id ⟨status, some error⟩)

/-- The status that a value names; a value that names none is refused. -/
def statusOf (v : Json) : Except Error Status :=
  match v with
  | .str text =>
    match Status.ofText? text with
    | some status => .ok status
    | none => .error (.refused (.unknownStatus (Text.quoted text)))
  | v => .error (.refused (.unknownStatus v.display))

/-- Writes the status that a value names and keeps the error text. -/
def updateStatusOf (now : String) (id : Int) (v : Json) : Session Deployment := fun s =>
  match statusOf v with
  | .ok status => s.updateStatus now id status
  | .error e => (.error e, s)

/-- The error text that points make up, if there is one; it cannot be bound to a statement if it has
no encoding. -/
def bindError (error : Option (List Text.Point)) : Except Error (Option String) :=
  match error with
  | none => .ok none
  | some ps => ((Text.ofPoints ps).map some).mapError .unencodable

/-- Writes the status that a value names together with an error text, or with none. The statement
is prepared before anything is bound to it, and the error text is bound before the id. -/
def setStatusOfAndError (now : String) (id : Int) (v : Json) (error : Option (List Text.Point)) :
    Session Deployment := fun s =>
  match statusOf v with
  | .ok status =>
    match bindError error with
    | .ok error => s.setStatusAndError now id status error
    | .error e => (.error (if s.deployments.isNone then .deploymentUnwritable id else e), s)
  | .error e => (.error e, s)

end Teardown.Store
