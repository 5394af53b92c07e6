import Teardown.Failure
import Teardown.Text.Blank

/-!
# The task queue

Tasks are handed out in the order in which they were submitted. A task that was handed out is in
flight until it is acknowledged as completed or as failed. The queue remembers the latest
finished tasks, up to its history limit, with the message of each failure; older ones are
forgotten.
-/

namespace Teardown

/-- A task in the queue. -/
structure QueuedTask where
  id : String
  text : String
deriving DecidableEq, Repr

/-- The state of the queue. -/
structure Queue where
  /-- How many finished tasks are remembered. -/
  history : Nat
  /-- The tasks that wait, the next one first. -/
  pending : List QueuedTask := []
  /-- The tasks that were handed out and not acknowledged. -/
  inFlight : List QueuedTask := []
  /-- The finished tasks, the oldest first; a completed task has no failure message. -/
  finished : List (String × Option String) := []
deriving DecidableEq, Repr

/-- Where a task is, as far as the queue remembers. -/
inductive TaskState where
  | pending
  | running
  | completed
  | failed
  | unknown
deriving DecidableEq, Repr

/-- The name of a state in answers. -/
def TaskState.name : TaskState → String
  | .pending => "pending"
  | .running => "running"
  | .completed => "completed"
  | .failed => "failed"
  | .unknown => "unknown"

namespace Queue

/-- The number of finished tasks remembered when nothing else is said. -/
def defaultHistory : Int := 1000

/-- An empty queue that remembers at least one finished task. -/
def create (history : Int) : Except Refusal Queue :=
  if history < 1 then .error (.below "finished_task_history" 1)
  else .ok { history := history.toNat }

/-- Refuses a blank text. -/
def check (text : String) : Except Refusal Unit :=
  if Text.isAllBlank text then .error (.blank "serialized_task") else .ok ()

/-- Adds a task under a new id at the end. -/
def push (id text : String) (q : Queue) : Queue :=
  { q with pending := q.pending ++ [⟨id, text⟩] }

/-- Adds a task under a new id, unless its text is refused. -/
def submit (id text : String) (q : Queue) : Except Refusal Queue :=
  (check text).map fun _ => q.push id text

/-- Hands out the next task, if one waits. -/
def fetch (q : Queue) : Option (QueuedTask × Queue) :=
  match q.pending with
  | [] => none
  | task :: rest => some (task, { q with pending := rest, inFlight := q.inFlight ++ [task] })

/-- Acknowledges a task, with a failure message if it failed, and forgets the oldest finished
tasks beyond the limit. -/
def finish (id : String) (failure : Option String) (q : Queue) : Except Failure Queue :=
  if q.inFlight.any (·.id == id) then
    let finished := q.finished ++ [(id, failure)]
    .ok { q with
      inFlight := q.inFlight.filter (·.id != id)
      finished := finished.drop (finished.length - q.history) }
  else .error (.notInFlight id)

/-- Where a task is. -/
def state (id : String) (q : Queue) : TaskState :=
  match q.finished.lookup id with
  | some none => .completed
  | some (some _) => .failed
  | none =>
    if q.inFlight.any (·.id == id) then .running
    else if q.pending.any (·.id == id) then .pending
    else .unknown

/-- The failure message of a remembered task that failed. -/
def failureMessage (id : String) (q : Queue) : Option String :=
  (q.finished.lookup id).join

end Queue

end Teardown
