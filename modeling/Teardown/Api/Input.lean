import Teardown.Api.Reply
import Teardown.Task.StopRequest
import Teardown.Validation.Number

/-!
# The input of a request

The id of a deployment stands in the path; a request to stop it may override the longest wait and
the pause between two looks in its query. Of several fields with one name the last one counts. All
faults of a request are reported together, each with its place and the text at fault.
-/

namespace Teardown.Api

/-- Where a text of a request stands. -/
inductive Place where
  | path
  | query
deriving DecidableEq, Repr

/-- The name of a place in replies. -/
def Place.name : Place → String
  | .path => "path"
  | .query => "query"

/-- A text of a request that does not fit its field. -/
structure Fault where
  place : Place
  field : String
  issue : Issue
  input : String
deriving DecidableEq, Repr

/-- The description of a fault. -/
def Fault.toJson (f : Fault) : Json :=
  .obj [("type", .str f.issue.tag), ("loc", .arr [.str f.place.name, .str f.field]),
    ("msg", .str f.issue.message), ("input", .str f.input)]

/-- The reply to a request with faults. -/
def Reply.unprocessable (faults : List Fault) : Reply :=
  .object 422 [("detail", .arr (faults.map Fault.toJson))]

/-- The outcome of reading one text of a request. -/
abbrev Reading (α : Type) := Except Fault α

/-- The fault of a reading, if there is one. -/
def Reading.faults {α : Type} : Reading α → List Fault
  | .ok _ => []
  | .error fault => [fault]

/-- Reads the id of a deployment. -/
def readId (text : String) : Reading Int :=
  (Validation.integerOfText text).mapError fun issue =>
    ⟨.path, StopRequest.deploymentKey, issue, text⟩

/-- The value of the last field with a name. -/
def lastField? (name : String) (fields : List (String × String)) : Option String :=
  fields.reverse.lookup name

/-- Reads a span of time, which may be left out. -/
def readSpan (name : String) (fields : List (String × String)) : Reading (Option Float) :=
  match lastField? name fields with
  | none => .ok none
  | some text =>
    match Validation.floatOfText text with
    | .ok x => .ok (some x)
    | .error issue => .error ⟨.query, name, issue, text⟩

/-- What a request to stop a deployment asks for. -/
structure StopInput where
  deploymentId : Int
  timeout : Option Float
  interval : Option Float
deriving Repr

/-- Reads a request to stop a deployment. -/
def StopInput.read (id query : String) : Except (List Fault) StopInput :=
  let fields := Text.formFields query
  let id := readId id
  let timeout := readSpan StopRequest.timeoutKey fields
  let interval := readSpan StopRequest.intervalKey fields
  match id, timeout, interval with
  | .ok id, .ok timeout, .ok interval => .ok ⟨id, timeout, interval⟩
  | _, _, _ =>
    .error (Reading.faults id ++ Reading.faults timeout ++ Reading.faults interval)

/-- The task that a request to stop a deployment submits; only the given overrides are part of
it. -/
def StopInput.task (i : StopInput) : Envelope :=
  StopRequest.task (.int i.deploymentId) (i.timeout.map .float) (i.interval.map .float)

end Teardown.Api
