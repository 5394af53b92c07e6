import Teardown.Refusal
import Teardown.Text.Point

/-!
# What can go wrong with stored deployments

A row may be missing, the storage may fail to read or to write, and an id may be too large or a
text without an encoding, so that it cannot be stored at all. A value in a row that cannot be read
is a failure of the storage when it is the status; as a time stamp a text is refused, and any other
value is of the wrong type.
-/

namespace Teardown.Store

/-- The outcome of an operation on stored deployments that did not succeed. -/
inductive Error where
  | deploymentMissing (id : Int)
  | instanceMissing (id : Int)
  | deploymentUnreadable (id : Int)
  | instanceUnreadable (id : Int)
  | deploymentUnwritable (id : Int)
  | statusUnknown (id : Int) (status : String)
  | idTooLarge
  | unencodable (reason : Text.Unencodable)
  | stampNotText
  | refused (reason : Refusal)
deriving DecidableEq, Repr

namespace Error

/-- The kind of a failure, as answers name it. -/
def kind : Error → String
  | .deploymentMissing _ => "DeploymentNotFoundError"
  | .instanceMissing _ => "DeploymentNotFoundError"
  | .deploymentUnreadable _ => "DeploymentPersistenceError"
  | .instanceUnreadable _ => "DeploymentPersistenceError"
  | .deploymentUnwritable _ => "DeploymentPersistenceError"
  | .statusUnknown _ _ => "DeploymentPersistenceError"
  | .idTooLarge => "OverflowError"
  | .unencodable _ => "UnicodeEncodeError"
  | .stampNotText => "TypeError"
  | .refused _ => "ValueError"

/-- The text of a failure. -/
def message : Error → String
  | .deploymentMissing id => "deployment " ++ toString id ++ " not found"
  | .instanceMissing id => "instance " ++ toString id ++ " not found"
  | .deploymentUnreadable id => "failed to fetch deployment " ++ toString id
  | .instanceUnreadable id => "failed to fetch instance " ++ toString id
  | .deploymentUnwritable id => "failed to update deployment " ++ toString id
  | .statusUnknown id status =>
    "deployment " ++ toString id ++ " has unknown status '" ++ status ++ "'"
  | .idTooLarge => "Python int too large to convert to SQLite INTEGER"
  | .unencodable reason => reason.message
  | .stampNotText => "fromisoformat: argument must be str"
  | .refused reason => reason.message

/-- Whether the failure says that a row does not exist. -/
def isMissing : Error → Bool
  | .deploymentMissing _ => true
  | .instanceMissing _ => true
  | _ => false

end Error

end Teardown.Store
