import Teardown.Procedure
import Teardown.Time.Seconds
import Teardown.Timeline
import Teardown.Workflow.Client

/-!
# Waiting for a workflow run

The wait turns the asynchronous run into a synchronous result. The first poll comes at once.
After a poll that finds the run pending, the wait ends if the deadline has come, and otherwise
pauses for one interval before the next poll. A run that has ended is believed even after the
deadline, and a poll that fails ends the wait.

`judge` is the rule for one poll; `next` is the wait as a procedure, and `perform` carries it out
and leaves its event on a timeline.
-/

namespace Teardown.Wait

variable {τ : Type} [TimeScale τ]

/-- How long to wait and how long to pause between two polls. -/
structure Limits (τ : Type) where
  timeout : τ
  interval : τ

/-- Both limits have to be positive. -/
def Limits.check (limits : Limits τ) : Except Refusal Unit :=
  if TimeScale.notPositive limits.timeout then .error (.notPositive "timeout_seconds")
  else if TimeScale.notPositive limits.interval then
    .error (.notPositive "check_interval_seconds")
  else .ok ()

/-- What a wait remembers: the clock at its start, and the number of polls made. -/
structure Watch (τ : Type) where
  started : τ
  polls : Nat

/-- What the wait does next. -/
inductive Phase (τ : Type) where
  | opening
  | polling (watch : Watch τ)
  | pausing (watch : Watch τ)

/-- How a wait ends. -/
inductive Ending (τ : Type) where
  | succeeded (polls : Nat)
  | runFailed (polls : Nat) (cause : String)
  | timedOut (polls : Nat) (elapsed : τ)
  | broken (failure : Failure)

/-- A wait in progress, or its end. -/
inductive State (τ : Type) where
  | going (phase : Phase τ)
  | ended (ending : Ending τ)

/-- What a poll found, and the clock after it. -/
structure Look (τ : Type) where
  result : Except Failure RunStatus
  now : τ

/-- The questions of a wait. -/
inductive Question (τ : Type) where
  | clock
  | poll (run : RunHandle)
  | pause (span : τ)

/-- The answers to the questions of a wait. -/
def Answer : Question τ → Type
  | .clock => τ
  | .poll _ => Look τ
  | .pause _ => Unit

/-- The cause of a failed run; a run that gives none is named instead. -/
def causeOf (run : RunHandle) : Option String → String
  | none => "workflow run " ++ run.id.display ++ " failed"
  | some cause =>
    if cause.isEmpty then "workflow run " ++ run.id.display ++ " failed" else cause

/-- What follows from a poll: `watch` counts the polls before it. -/
def judge (limits : Limits τ) (run : RunHandle) (watch : Watch τ) (look : Look τ) : State τ :=
  let polls := watch.polls + 1
  match look.result with
  | .error failure => .ended (.broken failure)
  | .ok .succeeded => .ended (.succeeded polls)
  | .ok (.failed cause) => .ended (.runFailed polls (causeOf run cause))
  | .ok .pending =>
    if TimeScale.reached (TimeScale.after watch.started limits.timeout) look.now then
      .ended (.timedOut polls (TimeScale.elapsed watch.started look.now))
    else .going (.pausing ⟨watch.started, polls⟩)

/-- The question of a phase. -/
def Phase.question (limits : Limits τ) (run : RunHandle) : Phase τ → Question τ
  | .opening => .clock
  | .polling _ => .poll run
  | .pausing _ => .pause limits.interval

/-- The state after the answer to the question of a phase. -/
def Phase.resume (limits : Limits τ) (run : RunHandle) :
    (p : Phase τ) → Answer (p.question limits run) → State τ
  | .opening, started => .going (.polling ⟨started, 0⟩)
  | .polling watch, look => judge limits run watch look
  | .pausing watch, _ => .going (.polling watch)

/-- What the log says when a phase begins. -/
def Phase.log (limits : Limits τ) (run : RunHandle) : Phase τ → List Log.Entry
  | .pausing watch =>
    [⟨.debug, "jobs.workflow_wait",
      "workflow run " ++ run.id.display ++ " still pending after poll " ++ toString watch.polls ++
        "; next check in " ++ TimeScale.display limits.interval ++ " seconds"⟩]
  | _ => []

/-- The wait as a procedure that ends with its ending. -/
def next (limits : Limits τ) (run : RunHandle) :
    State τ → Move (Question τ) Answer (State τ) (Ending τ)
  | .ended ending => .done [] ending
  | .going p => .ask (p.log limits run) (p.question limits run) (p.resume limits run)

namespace Ending

/-- The result of a wait: the number of polls, or why it failed. -/
def result (limits : Limits τ) (run : RunHandle) : Ending τ → Except Failure Nat
  | .succeeded polls => .ok polls
  | .runFailed _ cause => .error (.workflow ⟨.runFailed cause, some run.id⟩)
  | .timedOut _ elapsed =>
    .error (.workflow
      ⟨.timedOut (TimeScale.display elapsed) run.id (TimeScale.display limits.timeout),
        some run.id⟩)
  | .broken failure => .error failure

/-- The event that a wait leaves on the timeline; a failed poll leaves none. -/
def events (run : RunHandle) : Ending τ → Timeline
  | .succeeded polls =>
    [⟨"wait", "completed", [("run_id", run.id.toJson), ("poll_count", .int polls)]⟩]
  | .runFailed polls cause =>
    [⟨"wait", "failed",
      [("run_id", run.id.toJson), ("poll_count", .int polls), ("cause", .str cause)]⟩]
  | .timedOut polls elapsed =>
    [⟨"wait", "timed_out",
      [("run_id", run.id.toJson), ("poll_count", .int polls),
        ("elapsed_seconds", TimeScale.toJson elapsed)]⟩]
  | .broken _ => []

end Ending

/-- Answers the questions of a wait with a client and a clock. -/
def answer {m : Type → Type} [Monad m] (client : WorkflowClient m) (clock : Clock m τ) :
    (q : Question τ) → m (Answer q)
  | .clock => clock.now
  | .poll run => do
    let result ← client.poll run
    let now ← clock.now
    return Look.mk result now
  | .pause span => clock.pause span

/-- Waits for a run and then notes the event of the ending. Limits that are not positive are
refused; nothing is returned when the wait takes more than `horizon` moves. -/
def perform {m : Type → Type} [Monad m] (client : WorkflowClient m) (clock : Clock m τ)
    (write : Log.Entry → m Unit) (note : StageEvent → m Unit) (limits : Limits τ)
    (run : RunHandle) (horizon : Nat) : m (Option (Except Failure Nat)) :=
  match limits.check with
  | .error reason => return some (.error (.refused reason))
  | .ok _ => do
    match ← Procedure.run (answer client clock) write (next limits run) horizon
        (.going .opening) with
    | none => return none
    | some ending => do
      (ending.events run).forM note
      return some (ending.result limits run)

end Teardown.Wait
