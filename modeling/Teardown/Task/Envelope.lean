import Teardown.Json.Equal
import Teardown.Json.Reader
import Teardown.Json.Writer
import Teardown.Validation.Number

/-!
# Task descriptors

The queue holds tasks as text: an object with the type of the task and its payload. `text` writes
a descriptor and `ofText` reads one back.
-/

namespace Teardown

/-- A task: the type that selects its handler, and parameters for that handler. -/
structure Envelope where
  taskType : String
  payload : Json.Members
deriving Repr

namespace Envelope

/-- The name of the model in reports. -/
def model : String := "JobTaskEnvelope"

/-- In a task text, no number has more characters than this in front of its point or exponent. -/
def numberLimit : Nat := 4300

/-- Task texts nest lists and objects at most two hundred deep, not counting those that are empty,
and their numbers are bounded, the sign included. -/
def dialect : Json.Dialect where
  nesting := 200
  nestsEmpty := false
  wholeLength _ := some numberLimit
  wholeLength_decimal := rfl
  countsSign := true
  loneHalves := false

/-- The descriptor as an object. -/
def toJson (e : Envelope) : Json :=
  .obj [("task_type", .str e.taskType), ("payload", .obj e.payload)]

/-- The text of a descriptor. -/
def text (e : Envelope) : String :=
  e.toJson.compact

/-- The task type among the members of an object. -/
def readTaskType (members : Json.Members) : Except Issue String :=
  match Json.member? "task_type" members with
  | none => .error .missing
  | some v => (Validation.text v).bind Validation.nonempty

/-- The payload among the members of an object, empty when it is left out. `mismatch` is the
issue of a payload that is no object. -/
def readPayload (mismatch : Issue) (members : Json.Members) : Except Issue Json.Members :=
  match Json.member? "payload" members with
  | none => .ok []
  | some (.obj payload) => .ok payload
  | some _ => .error mismatch

/-- The issues of keys that do not belong to a model with the given fields. -/
def unknownKeys (fields : List String) (members : Json.Members) : List (Option String × Issue) :=
  (members.filter fun member => !fields.contains member.1).map fun member =>
    (some member.1, .unknownKey)

/-- Reads a descriptor from the members of an object. -/
def ofMembers (mismatch : Issue) (members : Json.Members) : Except Report Envelope :=
  let taskType := readTaskType members
  let payload := readPayload mismatch members
  let issues := Field.issues ("task_type", taskType) ++ Field.issues ("payload", payload) ++
    unknownKeys ["task_type", "payload"] members
  match taskType, payload, issues with
  | .ok taskType, .ok payload, [] => .ok ⟨taskType, payload⟩
  | _, _, issues => .error ⟨model, issues⟩

/-- Reads a descriptor from values that were not read from text. -/
def ofValues (members : Json.Members) : Except Report Envelope :=
  ofMembers .notDictionary members

/-- Reads a descriptor from its text. -/
def ofText (s : String) : Except Report Envelope :=
  match Json.read? dialect s with
  | none => .error (.whole model .malformed)
  | some (.obj members) => ofMembers .notObjectField members
  | some _ => .error (.whole model .notObject)

/-- Whether two descriptors have the same type and equal payloads. -/
def equal (e f : Envelope) : Bool :=
  e.taskType == f.taskType && Json.equal (.obj e.payload) (.obj f.payload)

end Envelope

end Teardown
