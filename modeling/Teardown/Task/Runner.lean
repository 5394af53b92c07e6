import Teardown.Log
import Teardown.Task.Queue
import Teardown.Task.Registry

/-!
# Running tasks

A task is validated before it enters the queue, and again when it is taken out to be run. Running
a task has three steps: it is fetched, its job is executed, and it is acknowledged, as completed
when the job returned, whatever the job reports, and as failed otherwise. A failing task does not
keep the next one from running; only an interrupt does, and it leaves its task in flight.
-/

namespace Teardown

/-- What became of one task. -/
structure Outcome where
  taskId : String
  /-- The task type, absent when the text of the task could not be read. -/
  taskType : Option String
  /-- The result of a job that returned, or the line of the failure. -/
  ending : Except String JobResult

/-- How an attempt to run the next task ends. -/
inductive Attempt where
  /-- No task was waiting. -/
  | idle
  | finished (outcome : Outcome)
  | broken (failure : Failure)
  | unfinished

/-- How the execution of a fetched task ends. -/
structure Execution where
  taskType : Option String
  ending : JobEnd

/-- The parts that running tasks needs: the handlers, new ids for submitted tasks, and a log. -/
structure Runner (m : Type → Type) where
  registry : Registry m
  newId : m String
  write : Log.Entry → m Unit

namespace Runner

variable {m : Type → Type} [Monad m] [MonadStateOf Queue m]

/-- An entry of the runner's log. -/
def entry (level : Log.Level) (message : String) : Log.Entry :=
  ⟨level, "jobs.runner", message⟩

/-- Puts a text into the queue under a new id. -/
def enqueue (r : Runner m) (text : String) : m (Except Refusal String) := do
  match Queue.check text with
  | .error reason => return .error reason
  | .ok _ =>
    let id ← r.newId
    modifyThe Queue (Queue.push id text)
    return .ok id

/-- Validates a task and puts it into the queue; the answer is its id. -/
def submit (r : Runner m) (e : Envelope) : m (Except Failure String) := do
  match r.registry.validate e with
  | .error cause => return .error (.task cause)
  | .ok _ =>
    match ← r.enqueue e.text with
    | .error reason => return .error (.refused reason)
    | .ok id =>
      r.write (entry .info ("submitted task " ++ id ++ " (" ++ e.taskType ++ ")"))
      return .ok id

/-- Takes the next task out of the queue. -/
def fetch : m (Option QueuedTask) := do
  match (← getThe Queue).fetch with
  | none => return none
  | some (task, q) =>
    set q
    return some task

/-- Reads the text of a task, builds its job and executes it. -/
def execute (r : Runner m) (text : String) : m Execution := do
  match Envelope.ofText text with
  | .error report => return ⟨none, .raised (.task (.invalidDescriptor report))⟩
  | .ok e =>
    match r.registry.build e with
    | .error failure => return ⟨some e.taskType, .raised failure⟩
    | .ok job => return ⟨some e.taskType, ← job e.taskType⟩

/-- Acknowledges a task in the queue. -/
def acknowledge (id : String) (failure : Option String) : m (Except Failure Unit) := do
  match (← getThe Queue).finish id failure with
  | .error cause => return .error cause
  | .ok q =>
    set q
    return .ok ()

/-- Acknowledges an executed task and reports its outcome. -/
def settle (r : Runner m) (task : QueuedTask) (x : Execution) : m Attempt := do
  let label := "task " ++ task.id ++ " (" ++ x.taskType.getD "None" ++ ")"
  match x.ending with
  | .unfinished => return .unfinished
  | .raised failure =>
    if failure.isInterrupt then return .broken failure
    r.write (entry .error (label ++ " failed"))
    match ← acknowledge task.id (some failure.line) with
    | .error cause => return .broken cause
    | .ok _ => return .finished ⟨task.id, x.taskType, .error failure.line⟩
  | .returned result =>
    match ← acknowledge task.id none with
    | .error cause => return .broken cause
    | .ok _ =>
      r.write (entry .info (label ++ " completed with status '" ++ result.status ++ "'"))
      return .finished ⟨task.id, x.taskType, .ok result⟩

/-- Runs the next task, if one waits. -/
def runNext (r : Runner m) : m Attempt := do
  match ← fetch with
  | none => return .idle
  | some task =>
    let x ← r.execute task.text
    r.settle task x

/-- How draining the queue ends. -/
inductive Drain where
  | drained (outcomes : List Outcome)
  | broken (failure : Failure)
  | unfinished

/-- Runs tasks until none waits, at most `horizon` of them; the outcomes are in the order of
execution. -/
def drain (r : Runner m) : Nat → m Drain
  | 0 => return .unfinished
  | horizon + 1 => do
    match ← r.runNext with
    | .idle => return .drained []
    | .broken failure => return .broken failure
    | .unfinished => return .unfinished
    | .finished outcome =>
      match ← drain r horizon with
      | .drained outcomes => return .drained (outcome :: outcomes)
      | ending => return ending

end Runner

end Teardown
