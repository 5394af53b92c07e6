import Teardown.Failure
import Teardown.Text.Blank

/-!
# Timelines

A job reports its progress as a list of stage events. An event names a stage and what became of
it, and may carry details; neither name may be blank.
-/

namespace Teardown

/-- One event of a timeline. -/
structure StageEvent where
  stage : String
  status : String
  details : Json.Members := []
deriving Repr

/-- The events of a job in the order of their occurrence. -/
abbrev Timeline := List StageEvent

namespace StageEvent

/-- Builds an event from names that an operator gives. -/
def checked (stage status : String) (details : Json.Members) : Except Refusal StageEvent :=
  if Text.isAllBlank stage then .error (.blank "stage")
  else if Text.isAllBlank status then .error (.blank "status")
  else .ok ⟨stage, status, details⟩

/-- The event as a value; details are left out when there are none. -/
def toJson (e : StageEvent) : Json :=
  .obj ([("stage", .str e.stage), ("status", .str e.status)] ++
    (if e.details.isEmpty then [] else [("details", .obj e.details)]))

/-- The event as a value together with the moment of its occurrence in universal time. -/
def toJsonAt (e : StageEvent) (moment : String) : Json :=
  match e.toJson with
  | .obj members => .obj (members ++ [("at_utc", .str (moment ++ "+00:00"))])
  | v => v

end StageEvent

/-- A timeline as a value. -/
def Timeline.toJson (t : Timeline) : Json :=
  .arr (t.map StageEvent.toJson)

end Teardown
