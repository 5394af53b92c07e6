import Teardown.Task.Registry
import Teardown.Task.StopRequest
import Teardown.Workflow.Wait

/-!
# Stopping a deployment

The job stops one running deployment: it marks the row as `stopping`, starts the teardown
workflow, waits for its run, and records `stopped`. A deployment that is not running is skipped.

Until the mark is written, a failure ends the job and leaves everything as it was. From then on
every failure, interrupts excepted, is reconciled: the row is recorded as `failed` with the
cause, and the job returns. Only a reconciliation that fails itself ends the job with a failure.
-/

namespace Teardown.StopJob

variable {τ : Type} [TimeScale τ]

/-- The deployment to stop, and the limits of the wait for its teardown. -/
structure Config (τ : Type) where
  deploymentId : Int
  limits : Wait.Limits τ

/-- The name of the job. -/
def name : String := StopRequest.taskType

/-- Both limits have to be positive before a job is built. -/
def Config.check (config : Config τ) : Except Refusal Unit :=
  if TimeScale.notPositive config.limits.timeout then
    .error (.notPositive "config.workflow_timeout_seconds")
  else if TimeScale.notPositive config.limits.interval then
    .error (.notPositive "config.workflow_check_interval_seconds")
  else .ok ()

/-- The questions of the job. -/
inductive Question (τ : Type) where
  | deployment (id : Int)
  | location (instanceId : Int)
  | write (id : Int) (status : Status) (error : Option String)
  | start (inst : Instance)
  | source
  | wait (question : Wait.Question τ)

/-- The answers to the questions of the job. -/
def Answer : Question τ → Type
  | .deployment _ => Except Failure Deployment
  | .location _ => Except Failure Instance
  | .write _ _ _ => Except Failure Unit
  | .start _ => Except Failure RunHandle
  | .source => Except Failure String
  | .wait question => Wait.Answer question

/-- What the job does next. -/
inductive Phase (τ : Type) where
  /-- Reads the deployment. -/
  | reading
  /-- Reads the instance of a running deployment. -/
  | locating (instanceId : Int)
  /-- Writes `stopping`. -/
  | marking (inst : Instance)
  /-- Starts the teardown. -/
  | starting (inst : Instance)
  /-- Asks for the name of the service that runs the teardown. -/
  | naming (run : RunHandle)
  /-- Waits for the run. -/
  | waiting (run : RunHandle) (phase : Wait.Phase τ)
  /-- Writes `stopped`. -/
  | recording (run : RunHandle)
  /-- Writes `failed`. -/
  | reconciling (cause : Failure)
  | skipped (status : Status)
  | stopped (run : RunHandle)
  | failed
  | raised (failure : Failure)

/-- The job in the middle of its work: what it does next and the events so far. -/
structure State (τ : Type) where
  phase : Phase τ
  timeline : Timeline

/-- The job before its first move. -/
def State.initial : State τ := ⟨.reading, []⟩

/-- The error text of a deployment whose teardown failed. -/
def failureText (cause : Failure) : String :=
  "failed to stop deployment: " ++ cause.message

/-- After the mark: an interrupt ends the job, any other failure is noted and reconciled. -/
def giveUp (timeline : Timeline) (cause : Failure) : State τ :=
  if cause.isInterrupt then ⟨.raised cause, timeline⟩
  else
    ⟨.reconciling cause, timeline ++
      [⟨"run", "failed",
        [("error_type", .str cause.kind), ("error_message", .str cause.message)]⟩]⟩

/-- From the wait to what follows it. -/
def settle (config : Config τ) (run : RunHandle) (timeline : Timeline) : Wait.State τ → State τ
  | .going phase => ⟨.waiting run phase, timeline⟩
  | .ended ending =>
    let timeline := timeline ++ ending.events run
    match ending.result config.limits run with
    | .ok _ => ⟨.recording run, timeline⟩
    | .error cause => giveUp timeline cause

/-- The event of a started teardown. -/
def dispatched (source : String) (run : RunHandle) : StageEvent :=
  ⟨"teardown", "dispatched",
    [("source", .str source), ("run_id", run.id.toJson), ("run_url", run.url)]⟩

/-- An entry of the job's log. -/
def entry (level : Log.Level) (message : String) : Log.Entry :=
  ⟨level, "jobs.stopping", message⟩

/-- What the log says when a phase begins. -/
def Phase.log (config : Config τ) : Phase τ → List Log.Entry
  | .starting _ =>
    [entry .info ("deployment '" ++ toString config.deploymentId ++ "' marked as stopping")]
  | .waiting run phase => phase.log config.limits run
  | .reconciling cause =>
    [entry .error
      ("failed to stop deployment '" ++ toString config.deploymentId ++ "': " ++ cause.message)]
  | .skipped status =>
    [entry .warning ("cannot stop deployment '" ++ toString config.deploymentId ++
      "': invalid state '" ++ status.text ++ "'")]
  | .stopped run =>
    [entry .info ("deployment '" ++ toString config.deploymentId ++ "' stopped by workflow run " ++
      run.id.display)]
  | _ => []

/-- The result of a job that returns under the name it was called by. -/
def result (jobName status : String) (timeline : Timeline) : Except Failure JobResult :=
  .ok ⟨jobName, status, timeline⟩

/-- The job as a procedure, called by its name. -/
def next (config : Config τ) (jobName : String) (s : State τ) :
    Move (Question τ) Answer (State τ) (Except Failure JobResult) :=
  let id := config.deploymentId
  let log := s.phase.log config
  match s.phase with
  | .reading => .ask log (.deployment id) fun
      | .error failure => ⟨.raised failure, s.timeline⟩
      | .ok deployment =>
        if deployment.status.isStoppable then ⟨.locating deployment.instanceId, s.timeline⟩
        else
          ⟨.skipped deployment.status, s.timeline ++
            [⟨"precondition", "skipped", [("deployment_status", .str deployment.status.text)]⟩]⟩
  | .locating instanceId => .ask log (.location instanceId) fun
      | .error failure => ⟨.raised failure, s.timeline⟩
      | .ok inst => ⟨.marking inst, s.timeline⟩
  | .marking inst => .ask log (.write id .stopping none) fun
      | .error failure => ⟨.raised failure, s.timeline⟩
      | .ok _ => ⟨.starting inst, s.timeline ++ [⟨"teardown", "started", []⟩]⟩
  | .starting inst => .ask log (.start inst) fun
      | .error cause => giveUp s.timeline cause
      | .ok run => ⟨.naming run, s.timeline⟩
  | .naming run => .ask log .source fun
      | .error cause => giveUp s.timeline cause
      | .ok source =>
        let timeline := s.timeline ++ [dispatched source run]
        match config.limits.check with
        | .error reason => giveUp timeline (.refused reason)
        | .ok _ => ⟨.waiting run .opening, timeline⟩
  | .waiting run phase => .ask log (.wait (phase.question config.limits run)) fun a =>
      settle config run s.timeline (phase.resume config.limits run a)
  | .recording run => .ask log (.write id .stopped none) fun
      | .error cause => giveUp s.timeline cause
      | .ok _ => ⟨.stopped run, s.timeline ++ [⟨"run", "success", []⟩]⟩
  | .reconciling cause => .ask log (.write id .failed (some (failureText cause))) fun
      | .error failure => ⟨.raised failure, s.timeline⟩
      | .ok _ => ⟨.failed, s.timeline⟩
  | .skipped _ => .done log (result jobName "skipped" s.timeline)
  | .stopped _ => .done log (result jobName "success" s.timeline)
  | .failed => .done log (result jobName "failed" s.timeline)
  | .raised failure => .done log (.error failure)

/-- The surroundings of the job. -/
structure Surroundings (m : Type → Type) (τ : Type) where
  repository : Repository m
  client : WorkflowClient m
  clock : Clock m τ
  write : Log.Entry → m Unit
  /-- The number of moves after which a job counts as unfinished. -/
  horizon : Nat

variable {m : Type → Type} [Monad m]

/-- Answers the questions of the job. -/
def answer (surroundings : Surroundings m τ) : (q : Question τ) → m (Answer q)
  | .deployment id => surroundings.repository.getDeployment id
  | .location id => surroundings.repository.getInstance id
  | .write id status error => surroundings.repository.setStatusAndError id status error
  | .start inst => surroundings.client.start inst
  | .source => surroundings.client.source
  | .wait question => Wait.answer surroundings.client surroundings.clock question

/-- Executes the job under a name; a name that is not its own is refused. -/
def execute (surroundings : Surroundings m τ) (config : Config τ) (called : String) :
    m JobEnd := do
  let jobName := Text.strip called
  if jobName = name then
    match ← Procedure.run (answer surroundings) surroundings.write (next config jobName)
        surroundings.horizon State.initial with
    | none => return .unfinished
    | some (.ok result) => return .returned result
    | some (.error failure) => return .raised failure
  else return .raised (.refused (.unsupportedJob jobName))

/-- Builds the job from its configuration. -/
def build (surroundings : Surroundings m τ) (config : Config τ) : Except Refusal (Job m) :=
  config.check.map fun _ => execute surroundings config

/-- The configuration that a request asks for. -/
def Config.ofRequest (r : StopRequest) : Config Seconds where
  deploymentId := r.deploymentId
  limits := ⟨.decimal r.timeout, .decimal r.interval⟩

/-- The handler of stopping tasks. -/
def handler (surroundings : Surroundings m Seconds) : Handler m := fun payload =>
  (StopRequest.ofMembers payload).map fun request =>
    { fields := request.fields
      build := (build surroundings (.ofRequest request)).mapError Failure.refused }

end Teardown.StopJob
