import Mathlib.Tactic.Lemma
import Teardown.Proofs.StopJob.Course

/-!
# The journey of a stop job

A course says which calls a job has made in a phase.  The journey says more, for a job with a remote
client, which sends no messages of its own: it also knows the timeline, and it follows the wait from
poll to poll.

`Wait.Reaches` are the states that a wait comes to, with the looks that its polls gave.  `Tried` is
the part of the work that lies between the mark and the last write: the calls, the events that they
leave, and the result, which is the run that was stopped or the failure that came first.  `Journey`
puts the parts together, `Journey.step` takes it over one answered question, and `execute_journey`
over a whole execution.
-/

namespace Teardown

namespace Wait

/-- The states that a wait comes to, with the looks that its polls gave. -/
inductive Reaches (limits : Limits Seconds) (run : RunHandle) :
    State Seconds → List (Look Seconds) → Prop where
  | opening : Reaches limits run (.going .opening) []
  | started (moment : Seconds) : Reaches limits run (.going (.polling ⟨moment, 0⟩)) []
  | polled {watch looks look s} (before : Reaches limits run (.going (.polling watch)) looks)
      (judged : judge limits run watch look = s) : Reaches limits run s (looks ++ [look])
  | paused {watch looks} (before : Reaches limits run (.going (.pausing watch)) looks) :
      Reaches limits run (.going (.polling watch)) looks

/-- A poll after which the wait goes on leads to a pause. -/
lemma phase_of_judge_going {limits : Limits Seconds} {run : RunHandle} {watch : Watch Seconds}
    {look : Look Seconds} {phase : Phase Seconds} (h : judge limits run watch look = .going phase) :
    phase = .pausing ⟨watch.started, watch.polls + 1⟩ := by
  unfold judge at h
  split at h
  · cases h
  · cases h
  · cases h
  · split at h
    · cases h
    · cases h
      rfl

/-- A wait that has not read the clock has not polled either. -/
lemma Reaches.looks_of_opening {limits : Limits Seconds} {run : RunHandle}
    {looks : List (Look Seconds)} (h : Reaches limits run (.going .opening) looks) : looks = [] := by
  cases h with
  | opening => rfl
  | polled _ judged => cases phase_of_judge_going judged

end Wait

namespace StopJob

/-! ### The teardown between the mark and the last write -/

/-- The call by which a look was taken. -/
def pollOf (run : RunHandle) (look : Wait.Look Seconds) : Call :=
  .poll run look.result

/-- The calls of a teardown that was started and whose run was looked at. -/
def watching (inst : Instance) (run : RunHandle) (source : String)
    (looks : List (Wait.Look Seconds)) : List Call :=
  .start inst (.ok run) :: .source (.ok source) :: looks.map (pollOf run)

/-- One more look. -/
lemma watching_snoc (inst : Instance) (run : RunHandle) (source : String)
    (looks : List (Wait.Look Seconds)) (look : Wait.Look Seconds) :
    watching inst run source looks ++ [pollOf run look] =
      watching inst run source (looks ++ [look]) := by
  simp [watching]

/-- The event of a job that has marked its deployment. -/
def begun : StageEvent := ⟨"teardown", "started", []⟩

/-- The event of a failure that is reconciled. -/
def brokenBy (cause : Failure) : StageEvent :=
  ⟨"run", "failed", [("error_type", .str cause.kind), ("error_message", .str cause.message)]⟩

/-- The work of a job after its mark: its calls, the events that they leave on the timeline, and its
result.  The work ends with the first failure: of the start, of the naming of the service, of the
wait, which includes the failures of polls, or of the write of `stopped`. -/
inductive Tried (config : Config Seconds) (inst : Instance) :
    List Call → Timeline → Except Failure RunHandle → Prop where
  | start {cause} : Tried config inst [.start inst (.error cause)] [] (.error cause)
  | source {run cause} :
      Tried config inst [.start inst (.ok run), .source (.error cause)] [] (.error cause)
  | limits {run source reason} (checked : config.limits.check = .error reason) :
      Tried config inst (watching inst run source []) [dispatched source run]
        (.error (.refused reason))
  | wait {run source looks ending cause} (checked : config.limits.check = .ok ())
      (reached : Wait.Reaches config.limits run (.ended ending) looks)
      (failed : ending.result config.limits run = .error cause) :
      Tried config inst (watching inst run source looks)
        (dispatched source run :: ending.events run) (.error cause)
  | record {run source looks ending polls s cause} (checked : config.limits.check = .ok ())
      (reached : Wait.Reaches config.limits run (.ended ending) looks)
      (succeeded : ending.result config.limits run = .ok polls) :
      Tried config inst (watching inst run source looks ++
          [.write config.deploymentId .stopped none s s (.error cause)])
        (dispatched source run :: ending.events run) (.error cause)
  | stopped {run source looks ending polls s t} (checked : config.limits.check = .ok ())
      (reached : Wait.Reaches config.limits run (.ended ending) looks)
      (succeeded : ending.result config.limits run = .ok polls)
      (committed : Store.Commits config.deploymentId .stopped none s t) :
      Tried config inst (watching inst run source looks ++
          [.write config.deploymentId .stopped none s t (.ok ())])
        (dispatched source run :: ending.events run) (.ok run)

/-! ### The whole journey -/

/-- The calls that a job has made when it is in a state.  Nothing is said here of a job that has
raised a failure. -/
inductive Journey (config : Config Seconds) : State Seconds → List Call → Prop where
  | reading : Journey config .initial []
  | locating {d calls} (found : Found config d calls) (running : d.status.isStoppable = true) :
      Journey config ⟨.locating d.instanceId, []⟩ calls
  | marking {inst calls} (located : Located config inst calls) :
      Journey config ⟨.marking inst, []⟩ calls
  | starting {inst calls} (marked : Marked config inst calls) :
      Journey config ⟨.starting inst, [begun]⟩ calls
  | naming {inst run calls} (marked : Marked config inst calls) :
      Journey config ⟨.naming run, [begun]⟩ (calls ++ [.start inst (.ok run)])
  | waiting {inst run source phase looks calls} (marked : Marked config inst calls)
      (checked : config.limits.check = .ok ())
      (reached : Wait.Reaches config.limits run (.going phase) looks) :
      Journey config ⟨.waiting run phase, [begun, dispatched source run]⟩
        (calls ++ watching inst run source looks)
  | recording {inst run source looks ending polls calls} (marked : Marked config inst calls)
      (checked : config.limits.check = .ok ())
      (reached : Wait.Reaches config.limits run (.ended ending) looks)
      (succeeded : ending.result config.limits run = .ok polls) :
      Journey config ⟨.recording run, begun :: dispatched source run :: ending.events run⟩
        (calls ++ watching inst run source looks)
  | reconciling {inst calls work events cause} (marked : Marked config inst calls)
      (tried : Tried config inst work events (.error cause)) :
      Journey config ⟨.reconciling cause, begun :: events ++ [brokenBy cause]⟩ (calls ++ work)
  | skipped {d calls} (found : Found config d calls) (idle : d.status.isStoppable = false) :
      Journey config
        ⟨.skipped d.status,
          [⟨"precondition", "skipped", [("deployment_status", .str d.status.text)]⟩]⟩ calls
  | stopped {inst run calls work events} (marked : Marked config inst calls)
      (tried : Tried config inst work events (.ok run)) :
      Journey config ⟨.stopped run, begun :: events ++ [⟨"run", "success", []⟩]⟩ (calls ++ work)
  | failed {inst calls work events cause s t} (marked : Marked config inst calls)
      (tried : Tried config inst work events (.error cause))
      (committed : Store.Commits config.deploymentId .failed (some (failureText cause)) s t) :
      Journey config ⟨.failed, begun :: events ++ [brokenBy cause]⟩
        (calls ++ (work ++
          [.write config.deploymentId .failed (some (failureText cause)) s t (.ok ())]))
  | raised {failure timeline calls} : Journey config ⟨.raised failure, timeline⟩ calls

section Journey

variable {config : Config Seconds} {inst : Instance} {calls work : List Call}

/-- A job that gives up after its work has failed reconciles, or it has raised. -/
lemma Tried.giveUp {events : Timeline} {cause : Failure}
    (tried : Tried config inst work events (.error cause)) (marked : Marked config inst calls) :
    Journey config (giveUp (begun :: events) cause) (calls ++ work) := by
  unfold StopJob.giveUp
  split
  · exact .raised
  · exact .reconciling marked tried

/-- A judged poll takes the journey of a waiting job further. -/
lemma Journey.settle {run : RunHandle} {source : String} {watch : Wait.Watch Seconds}
    {looks : List (Wait.Look Seconds)} (marked : Marked config inst calls)
    (checked : config.limits.check = .ok ())
    (reached : Wait.Reaches config.limits run (.going (.polling watch)) looks)
    (look : Wait.Look Seconds) :
    Journey config
      (settle config run [begun, dispatched source run]
        (Wait.judge config.limits run watch look))
      (calls ++ watching inst run source looks ++ [pollOf run look]) := by
  rw [List.append_assoc, watching_snoc]
  cases hjudge : Wait.judge config.limits run watch look with
  | going phase => exact .waiting marked checked (reached.polled hjudge)
  | ended ending =>
    have hreached := reached.polled hjudge
    unfold StopJob.settle
    dsimp only
    split
    · rename_i polls hok
      exact .recording marked checked hreached hok
    · rename_i cause hfailed
      exact (Tried.wait checked hreached hfailed).giveUp marked

/-- Every answered question takes the journey of a job further. -/
theorem Journey.step {s : State Seconds} {log : List Log.Entry} {q : Question Seconds}
    {resume : Answer q → State Seconds} {a : Answer q} {more : List Call} {tables tables' : Store}
    (h : Journey config s calls) (hask : next config name s = .ask log q resume)
    (ha : Answers .silent tables q a more tables') :
    Journey config (resume a) (calls ++ more) := by
  cases h with
  | reading =>
    cases hask
    obtain ⟨rfl, rfl, htrue⟩ := ha
    cases a with
    | error failure => exact .raised
    | ok d =>
      have found : Found config d _ := .intro (htrue d rfl)
      dsimp only
      split
      · rename_i running
        exact .locating found running
      · rename_i idle
        exact .skipped found (Bool.eq_false_iff.mpr idle)
  | locating found running =>
    cases hask
    obtain ⟨rfl, rfl, htrue⟩ := ha
    cases a with
    | error failure => exact .raised
    | ok inst => exact .marking (.intro found running (htrue inst rfl))
  | marking located =>
    cases hask
    obtain ⟨rfl, ⟨committed, rfl⟩ | ⟨rfl, failure, rfl⟩⟩ := ha
    · exact .starting (.intro located committed)
    · exact .raised
  | starting marked =>
    cases hask
    obtain ⟨rfl, sent, rfl, rfl⟩ := ha
    cases a with
    | error cause => exact Tried.start.giveUp marked
    | ok run => exact .naming marked
  | @naming inst run calls marked =>
    cases hask
    obtain ⟨rfl, rfl⟩ := ha
    rw [List.append_assoc]
    cases a with
    | error cause => exact Tried.source.giveUp marked
    | ok source =>
      dsimp only
      split
      · rename_i reason checked
        exact (Tried.limits checked).giveUp marked
      · rename_i checked
        exact .waiting marked checked .opening
  | @waiting inst run source phase looks calls marked checked reached =>
    cases phase with
    | opening =>
      cases hask
      obtain ⟨rfl, rfl⟩ := ha
      rw [reached.looks_of_opening, List.append_nil]
      exact .waiting marked checked (.started a)
    | polling watch =>
      cases hask
      obtain ⟨rfl, sent, rfl, rfl⟩ := ha
      exact Journey.settle marked checked reached a
    | pausing watch =>
      cases hask
      obtain ⟨rfl, rfl⟩ := ha
      rw [List.append_nil]
      exact .waiting marked checked reached.paused
  | recording marked checked reached succeeded =>
    cases hask
    rw [List.append_assoc]
    obtain ⟨rfl, ⟨committed, rfl⟩ | ⟨rfl, failure, rfl⟩⟩ := ha
    · exact .stopped marked (.stopped checked reached succeeded committed)
    · exact (Tried.record checked reached succeeded).giveUp marked
  | reconciling marked tried =>
    cases hask
    rw [List.append_assoc]
    obtain ⟨rfl, ⟨committed, rfl⟩ | ⟨rfl, failure, rfl⟩⟩ := ha
    · exact .failed marked tried committed
    · exact .raised
  | skipped _ _ | stopped _ _ | failed _ _ _ | raised => cases hask

end Journey

/-- An execution of the job with a remote client follows its journey, whatever the environment does.
A job that returns has come to the end of a journey. -/
theorem execute_journey {ρ : Type} (env : Environment ρ) (client : WorkflowClient (StateM ρ))
    (config : Config Seconds) {called : String} (hname : Text.strip called = name) (w : World ρ) :
    let execution := (execute (env.surroundings client.remote) config called).run w
    ∃ s calls t, Journey config s calls ∧ Tells w.store calls t ∧
      execution.2.toScene = w.toScene.after calls t ∧
      ∀ result, execution.1 = endOf (some result) →
        ∃ log, next config name s = .done log result := by
  intro execution
  let Inv (s : State Seconds) (v : Scene) : Prop := ∃ calls t, Journey config s calls ∧
    Tells w.store calls t ∧ v = w.toScene.after calls t
  have hstart : Inv State.initial w.toScene :=
    ⟨[], w.store, .reading, rfl, w.toScene.after_nil.symm⟩
  have hkeep : ∀ {s v log q resume a v'}, Inv s v → next config name s = .ask log q resume →
      Answered .silent v q a v' → Inv (resume a) v' := by
    rintro s v log q resume a v' ⟨calls, t, hjourney, htells, rfl⟩ hask ⟨more, t', ha, rfl⟩
    exact ⟨calls ++ more, t', hjourney.step hask ha, tells_append.mpr ⟨t, htells, ha.tells⟩,
      w.toScene.after_after calls more t t'⟩
  obtain ⟨s, ⟨calls, t, hjourney, htells, hscene⟩, hend⟩ :=
    execute_invariant (env.surroundings client.remote) config hname (fun _ _ => rfl)
      (answered env client.remote_keepsTo) hkeep hstart
  exact ⟨s, calls, t, hjourney, htells, hscene, hend⟩

end StopJob

end Teardown
