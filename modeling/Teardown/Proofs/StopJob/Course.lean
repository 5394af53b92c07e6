import Mathlib.Tactic.Lemma
import Teardown.Proofs.Procedure
import Teardown.Proofs.StopJob.Answers

/-!
# The course of a stop job

`Course` says which calls a job has made when it is in a phase.  It is built up along the work of
the job: `Found` and `Located` are what the job knows before it writes, `Marked` adds the committed
mark, `Begun` a started teardown, `Watched` the pending polls, and `Achieved` the poll that reports
success.  `Refused` is a job that failed before the mark, and `Broken` one that failed after it.

`Course.step` says that every answered question extends the calls of one phase to the calls of the
next.  The course of a whole execution, `execute_course`, follows by induction along the run; it
holds of the calls of one job whatever other jobs do to the tables in between.
-/

namespace Teardown

namespace Wait

/-- A wait goes on after a poll that finds the run pending, and after no other. -/
lemma result_of_judge_going {limits : Limits Seconds} {run : RunHandle} {watch : Watch Seconds}
    {look : Look Seconds} {phase : Phase Seconds} (h : judge limits run watch look = .going phase) :
    look.result = .ok .pending := by
  unfold judge at h
  split at h
  · cases h
  · cases h
  · cases h
  · assumption

/-- A wait that succeeds ends with a poll that reports success. -/
lemma result_of_judge_ok {limits : Limits Seconds} {run : RunHandle} {watch : Watch Seconds}
    {look : Look Seconds} {ending : Ending Seconds} {polls : Nat}
    (h : judge limits run watch look = .ended ending) (hok : ending.result limits run = .ok polls) :
    look.result = .ok .succeeded := by
  unfold judge at h
  split at h
  · cases h
    cases hok
  · assumption
  · cases h
    cases hok
  · split at h
    · cases h
      cases hok
    · cases h

/-- A wait that ends with an interrupt ends with a poll that raised it. -/
lemma result_of_judge_interrupt {limits : Limits Seconds} {run : RunHandle} {watch : Watch Seconds}
    {look : Look Seconds} {ending : Ending Seconds} {cause : Failure}
    (h : judge limits run watch look = .ended ending)
    (herror : ending.result limits run = .error cause) (interrupt : cause.isInterrupt = true) :
    look.result = .error cause := by
  unfold judge at h
  split at h
  · rename_i failure hresult
    cases h
    cases herror
    exact hresult
  · cases h
    cases herror
  · cases h
    cases herror
    cases interrupt
  · split at h
    · cases h
      cases herror
      cases interrupt
    · cases h

end Wait

namespace StopJob

section Course

variable (σ : Service) (config : Config Seconds)

/-! ### Before the mark -/

/-- The calls of a job that has read its deployment. -/
inductive Found : Deployment → List Call → Prop where
  | intro {s d} (read : s.getDeployment config.deploymentId = .ok d) :
      Found d [.deployment config.deploymentId s (.ok d)]

/-- The calls of a job that has read its deployment, found it running, and read its instance. -/
inductive Located : Instance → List Call → Prop where
  | intro {d calls s inst} (found : Found config d calls) (running : d.status.isStoppable = true)
      (read : s.getInstance d.instanceId = .ok inst) :
      Located inst (calls ++ [.location d.instanceId s (.ok inst)])

/-- The calls of a job that failed before its deployment was marked. -/
inductive Refused : Failure → List Call → Prop where
  | deployment {s failure} : Refused failure [.deployment config.deploymentId s (.error failure)]
  | location {d calls s failure} (found : Found config d calls)
      (running : d.status.isStoppable = true) :
      Refused failure (calls ++ [.location d.instanceId s (.error failure)])
  | mark {inst calls s failure} (located : Located config inst calls) :
      Refused failure
        (calls ++ [.write config.deploymentId .stopping none s s (.error failure)])

/-! ### From the mark to the end of the wait -/

/-- The calls of a job that has marked its deployment as `stopping`. -/
inductive Marked : Instance → List Call → Prop where
  | intro {inst calls s t} (located : Located config inst calls)
      (committed : Store.Commits config.deploymentId .stopping none s t) :
      Marked inst (calls ++ [.write config.deploymentId .stopping none s t (.ok ())])

/-- The calls of a job that has started the teardown. -/
inductive Begun : RunHandle → List Call → Prop where
  | intro {inst calls run sent} (marked : Marked config inst calls)
      (sends : σ.starts inst (.ok run) sent) :
      Begun run (calls ++ (sent.map .ofSent ++ [.start inst (.ok run)]))

/-- The calls of a job that waits for its run, which was pending at every poll so far. -/
inductive Watched : RunHandle → List Call → Prop where
  | named {run calls source} (begun : Begun σ config run calls)
      (checked : config.limits.check = .ok ()) :
      Watched run (calls ++ [.source (.ok source)])
  | pending {run calls sent} (watched : Watched run calls)
      (sends : σ.polls run (.ok .pending) sent) :
      Watched run (calls ++ (sent.map .ofSent ++ [.poll run (.ok .pending)]))

/-- The calls of a job whose run was reported to have succeeded. -/
inductive Achieved : RunHandle → List Call → Prop where
  | intro {run calls sent} (watched : Watched σ config run calls)
      (sends : σ.polls run (.ok .succeeded) sent) :
      Achieved run (calls ++ (sent.map .ofSent ++ [.poll run (.ok .succeeded)]))

/-- The calls of a job that failed after its deployment was marked: the start, the naming of the
service, the limits of the wait, the wait itself or the writing of `stopped`. -/
inductive Broken : Failure → List Call → Prop where
  | start {inst calls cause sent} (marked : Marked config inst calls)
      (sends : σ.starts inst (.error cause) sent) :
      Broken cause (calls ++ (sent.map .ofSent ++ [.start inst (.error cause)]))
  | source {run calls cause} (begun : Begun σ config run calls) :
      Broken cause (calls ++ [.source (.error cause)])
  | limits {run calls source reason} (begun : Begun σ config run calls)
      (checked : config.limits.check = .error reason) :
      Broken (.refused reason) (calls ++ [.source (.ok source)])
  | wait {run calls sent watch look ending cause} (watched : Watched σ config run calls)
      (sends : σ.polls run look.result sent)
      (judged : Wait.judge config.limits run watch look = .ended ending)
      (failed : ending.result config.limits run = .error cause) :
      Broken cause (calls ++ (sent.map .ofSent ++ [.poll run look.result]))
  | record {run calls s cause} (achieved : Achieved σ config run calls) :
      Broken cause (calls ++ [.write config.deploymentId .stopped none s s (.error cause)])

/-! ### The whole course -/

/-- The calls that a job has made when it is in a phase. -/
inductive Course : Phase Seconds → List Call → Prop where
  | reading : Course .reading []
  | locating {d calls} (found : Found config d calls) (running : d.status.isStoppable = true) :
      Course (.locating d.instanceId) calls
  | marking {inst calls} (located : Located config inst calls) : Course (.marking inst) calls
  | starting {inst calls} (marked : Marked config inst calls) : Course (.starting inst) calls
  | naming {run calls} (begun : Begun σ config run calls) : Course (.naming run) calls
  | waiting {run phase calls} (watched : Watched σ config run calls) :
      Course (.waiting run phase) calls
  | recording {run calls} (achieved : Achieved σ config run calls) : Course (.recording run) calls
  | reconciling {cause calls} (broken : Broken σ config cause calls)
      (handled : cause.isInterrupt = false) : Course (.reconciling cause) calls
  | skipped {d calls} (found : Found config d calls) (idle : d.status.isStoppable = false) :
      Course (.skipped d.status) calls
  | stopped {run calls s t} (achieved : Achieved σ config run calls)
      (committed : Store.Commits config.deploymentId .stopped none s t) :
      Course (.stopped run)
        (calls ++ [.write config.deploymentId .stopped none s t (.ok ())])
  | failed {cause calls s t} (broken : Broken σ config cause calls)
      (handled : cause.isInterrupt = false)
      (committed : Store.Commits config.deploymentId .failed (some (failureText cause)) s t) :
      Course .failed
        (calls ++ [.write config.deploymentId .failed (some (failureText cause)) s t (.ok ())])
  | refused {failure calls} (refused : Refused config failure calls) :
      Course (.raised failure) calls
  | interrupted {cause calls} (broken : Broken σ config cause calls)
      (interrupt : cause.isInterrupt = true) : Course (.raised cause) calls
  | unreconciled {cause calls s failure} (broken : Broken σ config cause calls)
      (handled : cause.isInterrupt = false) :
      Course (.raised failure)
        (calls ++
          [.write config.deploymentId .failed (some (failureText cause)) s s (.error failure)])

end Course

/-! ### One question -/

section Step

variable {σ : Service} {config : Config Seconds} {calls : List Call} {cause : Failure}

/-- A job that breaks with an interrupt has made a call that was interrupted. -/
lemma Broken.interrupted (broken : Broken σ config cause calls)
    (interrupt : cause.isInterrupt = true) : ∃ call ∈ calls, call.failure? = some cause := by
  cases broken with
  | @start inst _ sent _ _ => exact ⟨.start inst (.error cause), by simp, rfl⟩
  | source _ => exact ⟨.source (.error cause), by simp, rfl⟩
  | limits _ _ => cases interrupt
  | @wait run _ sent watch look ending _ _ _ judged failed =>
    have hlook := Wait.result_of_judge_interrupt judged failed interrupt
    rw [hlook]
    exact ⟨.poll run (.error cause), by simp, rfl⟩
  | @record _ _ s _ =>
    exact ⟨.write config.deploymentId .stopped none s s (.error cause), by simp, rfl⟩

/-- Giving up reconciles every failure but an interrupt. -/
lemma Broken.giveUp (broken : Broken σ config cause calls) (timeline : Timeline) :
    Course σ config (giveUp timeline cause : State Seconds).phase calls := by
  unfold StopJob.giveUp
  split
  · rename_i interrupt
    exact .interrupted broken interrupt
  · rename_i handled
    exact .reconciling broken (Bool.eq_false_iff.mpr handled)

/-- A poll of the wait goes on, leads to the writing of `stopped`, or breaks the job. -/
lemma Watched.settle {run : RunHandle} (watched : Watched σ config run calls)
    (watch : Wait.Watch Seconds) {look : Wait.Look Seconds} {sent : List Sent}
    (sends : σ.polls run look.result sent) (timeline : Timeline) :
    Course σ config
      (settle config run timeline (Wait.judge config.limits run watch look)).phase
      (calls ++ (sent.map .ofSent ++ [.poll run look.result])) := by
  cases hjudge : Wait.judge config.limits run watch look with
  | going phase =>
    have hlook := Wait.result_of_judge_going hjudge
    rw [hlook] at sends ⊢
    exact .waiting (.pending watched sends)
  | ended ending =>
    unfold StopJob.settle
    dsimp only
    split
    · rename_i hok
      have hlook := Wait.result_of_judge_ok hjudge hok
      rw [hlook] at sends ⊢
      exact .recording (.intro watched sends)
    · rename_i cause hfailed
      exact (Broken.wait watched sends hjudge hfailed).giveUp _

/-- Every answered question takes the calls of one phase to the calls of the next. -/
theorem Course.step {s : State Seconds} {name : String} {log : List Log.Entry}
    {q : Question Seconds} {resume : Answer q → State Seconds} {a : Answer q}
    {more : List Call} {tables tables' : Store} (h : Course σ config s.phase calls)
    (hask : next config name s = .ask log q resume) (ha : Answers σ tables q a more tables') :
    Course σ config (resume a).phase (calls ++ more) := by
  obtain ⟨phase, timeline⟩ := s
  cases h with
  | reading =>
    cases hask
    obtain ⟨rfl, rfl, htrue⟩ := ha
    cases a with
    | error failure => exact .refused .deployment
    | ok d =>
      have found : Found config d _ := .intro (htrue d rfl)
      dsimp only
      split
      · rename_i running
        exact .locating found running
      · rename_i idle
        exact .skipped found (Bool.eq_false_iff.mpr idle)
  | locating found running =>
    cases hask
    obtain ⟨rfl, rfl, htrue⟩ := ha
    cases a with
    | error failure => exact .refused (.location found running)
    | ok inst => exact .marking (.intro found running (htrue inst rfl))
  | marking located =>
    cases hask
    obtain ⟨rfl, ⟨committed, rfl⟩ | ⟨rfl, failure, rfl⟩⟩ := ha
    · exact .starting (.intro located committed)
    · exact .refused (.mark located)
  | starting marked =>
    cases hask
    obtain ⟨rfl, sent, sends, rfl⟩ := ha
    cases a with
    | error cause => exact (Broken.start marked sends).giveUp timeline
    | ok run => exact .naming (.intro marked sends)
  | naming begun =>
    cases hask
    obtain ⟨rfl, rfl⟩ := ha
    cases a with
    | error cause => exact (Broken.source begun).giveUp timeline
    | ok source =>
      dsimp only
      split
      · rename_i reason checked
        exact (Broken.limits begun checked).giveUp _
      · rename_i checked
        exact .waiting (.named begun checked)
  | @waiting run phase _ watched =>
    cases phase with
    | opening =>
      cases hask
      obtain ⟨rfl, rfl⟩ := ha
      exact (List.append_nil calls).symm ▸ .waiting watched
    | polling watch =>
      cases hask
      obtain ⟨rfl, sent, sends, rfl⟩ := ha
      exact watched.settle watch sends timeline
    | pausing watch =>
      cases hask
      obtain ⟨rfl, rfl⟩ := ha
      exact (List.append_nil calls).symm ▸ .waiting watched
  | recording achieved =>
    cases hask
    obtain ⟨rfl, ⟨committed, rfl⟩ | ⟨rfl, failure, rfl⟩⟩ := ha
    · exact .stopped achieved committed
    · exact (Broken.record achieved).giveUp timeline
  | reconciling broken handled =>
    cases hask
    obtain ⟨rfl, ⟨committed, rfl⟩ | ⟨rfl, failure, rfl⟩⟩ := ha
    · exact .failed broken handled committed
    · exact .unreconciled broken handled
  | skipped _ _ | stopped _ _ | failed _ _ _ | refused _ | interrupted _ _ | unreconciled _ _ =>
    cases hask

end Step

/-! ### A whole execution -/

/-- How an execution ends, given the result of its run. -/
def endOf : Option (Except Failure JobResult) → JobEnd
  | none => .unfinished
  | some (.ok result) => .returned result
  | some (.error failure) => .raised failure

/-- The result of the run of an execution, given how the execution ends. -/
def outcomeOf : JobEnd → Option (Except Failure JobResult)
  | .unfinished => none
  | .returned result => some (.ok result)
  | .raised failure => some (.error failure)

/-- The end of an execution tells the result of its run. -/
lemma outcomeOf_endOf : (outcome : Option (Except Failure JobResult)) →
    outcomeOf (endOf outcome) = outcome
  | none | some (.ok _) | some (.error _) => rfl

/-- The result of a run tells the end of the execution. -/
lemma endOf_outcomeOf : (ending : JobEnd) → endOf (outcomeOf ending) = ending
  | .unfinished | .returned _ | .raised _ => rfl

lemma eq_of_endOf_eq {outcome : Option (Except Failure JobResult)}
    {result : Except Failure JobResult} (h : endOf outcome = endOf (some result)) :
    outcome = some result := by
  rw [← outcomeOf_endOf outcome, h, outcomeOf_endOf]

lemma eq_of_outcomeOf {ending : JobEnd} {result : Except Failure JobResult}
    (h : outcomeOf ending = some result) : ending = endOf (some result) := by
  rw [← endOf_outcomeOf ending, h]

section Execution

variable {m : Type → Type} [Monad m] (surroundings : Surroundings m Seconds)
variable (config : Config Seconds) {called : String}

/-- Under its own name, an execution is a run of the procedure. -/
lemma execute_of_name [LawfulMonad m] (hname : Text.strip called = name) :
    execute surroundings config called =
      endOf <$> Procedure.run (answer surroundings) surroundings.write
        (next config (Text.strip called)) surroundings.horizon State.initial := by
  simp only [execute, if_pos hname, map_eq_pure_bind]
  congr 1
  funext outcome
  match outcome with
  | none | some (.ok _) | some (.error _) => rfl

/-- Under any other name, an execution is refused. -/
lemma execute_of_ne_name (hname : Text.strip called ≠ name) :
    execute surroundings config called =
      pure (.raised (.refused (.unsupportedJob (Text.strip called)))) := by
  simp only [execute, if_neg hname]

end Execution

/-- What every answered question keeps, an execution keeps: the invariant holds of some state that
the execution stops in, and an execution with a result stops in a state that has ended with it. -/
theorem execute_invariant {ρ : Type} (surroundings : Surroundings (Play ρ) Seconds)
    (config : Config Seconds) {called : String} (hname : Text.strip called = name)
    {Answered : Scene → (q : Question Seconds) → Answer q → Scene → Prop}
    {Inv : State Seconds → Scene → Prop}
    (hwrite : ∀ e (w : World ρ), ((surroundings.write e).run w).2.toScene = w.toScene)
    (hanswer : ∀ q (w : World ρ), Answered w.toScene q ((answer surroundings q).run w).1
      ((answer surroundings q).run w).2.toScene)
    (hkeep : ∀ {s v log q resume a v'}, Inv s v → next config name s = .ask log q resume →
      Answered v q a v' → Inv (resume a) v')
    {w : World ρ} (h : Inv State.initial w.toScene) :
    let execution := (execute surroundings config called).run w
    ∃ s, Inv s execution.2.toScene ∧ ∀ result, execution.1 = endOf (some result) →
      ∃ log, next config name s = .done log result := by
  intro execution
  obtain ⟨s, hinv, hend⟩ :=
    Procedure.run_invariant hwrite hanswer hkeep surroundings.horizon h
  have hexecution : execution = _ :=
    congrArg (fun x => StateT.run x w) (execute_of_name surroundings config hname)
  rw [hname] at hexecution
  refine ⟨s, ?_, fun result hresult => ?_⟩
  · rw [hexecution]
    exact hinv
  · rw [hexecution] at hresult
    exact hend _ (eq_of_endOf_eq hresult)

/-- An execution of the job follows its course, whatever the environment does.  A job that returns
has come to an end of the course. -/
theorem execute_course {ρ : Type} (env : Environment ρ) {client : WorkflowClient (Play ρ)}
    {σ : Service} (hclient : client.KeepsTo σ) (config : Config Seconds) (called : String)
    (w : World ρ) :
    let execution := (execute (env.surroundings client) config called).run w
    ∃ s calls t, Course σ config s.phase calls ∧ Tells w.store calls t ∧
      execution.2.toScene = w.toScene.after calls t ∧
      ∀ result, execution.1 = .returned result →
        ∃ log, next config (Text.strip called) s = .done log (.ok result) := by
  intro execution
  by_cases hname : Text.strip called = name
  · let Inv (s : State Seconds) (v : Scene) : Prop := ∃ calls t, Course σ config s.phase calls ∧
      Tells w.store calls t ∧ v = w.toScene.after calls t
    have hstart : Inv State.initial w.toScene :=
      ⟨[], w.store, .reading, rfl, w.toScene.after_nil.symm⟩
    have hkeep : ∀ {s v log q resume a v'}, Inv s v → next config name s = .ask log q resume →
        Answered σ v q a v' → Inv (resume a) v' := by
      rintro s v log q resume a v' ⟨calls, t, hcourse, htells, rfl⟩ hask ⟨more, t', ha, rfl⟩
      exact ⟨calls ++ more, t', hcourse.step hask ha, tells_append.mpr ⟨t, htells, ha.tells⟩,
        w.toScene.after_after calls more t t'⟩
    obtain ⟨s, ⟨calls, t, hcourse, htells, hscene⟩, hend⟩ :=
      execute_invariant (env.surroundings client) config hname (fun _ _ => rfl)
        (answered env hclient) hkeep hstart
    refine ⟨s, calls, t, hcourse, htells, hscene, fun result hresult => ?_⟩
    rw [hname]
    exact hend (.ok result) hresult
  · have hexecution : execution = _ :=
      congrArg (fun x => StateT.run x w) (execute_of_ne_name (env.surroundings client) config hname)
    refine ⟨.initial, [], w.store, .reading, rfl, ?_, fun result hresult => ?_⟩
    · rw [hexecution]
      exact w.toScene.after_nil.symm
    · rw [hexecution] at hresult
      cases hresult

end StopJob

end Teardown
