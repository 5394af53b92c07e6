import Teardown.Deployment.Status
import Teardown.Time.Stamp

/-!
# Deployments and their instances

A deployment belongs to one instance, whose slug names the infrastructure that the teardown
workflow releases.
-/

namespace Teardown

/-- The infrastructure behind a deployment. -/
structure Instance where
  id : Int
  slug : String
  createdAt : Stamp
deriving DecidableEq, Repr

/-- The stored state of a deployment. -/
structure Deployment where
  id : Int
  instanceId : Int
  status : Status
  error : Option String
  createdAt : Stamp
  updatedAt : Stamp
deriving DecidableEq, Repr

/-- The answer that describes an instance. -/
def Instance.toJson (i : Instance) : Json :=
  .obj [("instance_id", .int i.id), ("instance_slug", .str i.slug),
    ("created_at_utc", .str i.createdAt.iso)]

/-- The answer that describes a deployment. -/
def Deployment.toJson (d : Deployment) : Json :=
  .obj [("deployment_id", .int d.id), ("instance_id", .int d.instanceId),
    ("status", .str d.status.text), ("error", Json.ofText? d.error),
    ("created_at_utc", .str d.createdAt.iso), ("updated_at_utc", .str d.updatedAt.iso)]

end Teardown
