import Teardown.Proofs.StopJob.Verdict

/-!
# What a timeline tells

A job that returns leaves a timeline, from which an operator has to find out how far it came.
`Exit` lists the ways in which a job returns, and `Exit.stages` the stages that a timeline goes
through in each of them, which are different for different exits.  What really happened is read off
the calls of the job: `Exit.Shows` says of the call that decided the exit which exit it was.

`returned_diagnosis` says that timeline and calls agree on the exit.  They also agree on the run
that was started and on the number of polls, and the row holds the error text that the timeline ends
with.
-/

namespace Teardown

/-- The stage of an event and what became of it. -/
def StageEvent.names (event : StageEvent) : String × String :=
  (event.stage, event.status)

/-- The run that a call has started. -/
def Call.started? : Call → Option RunHandle
  | .start _ (.ok run) => some run
  | _ => none

/-- A call that asks for the status of a run. -/
def Call.isPoll : Call → Bool
  | .poll _ _ => true
  | _ => false

/-! ### The polls of a wait -/

namespace Wait

variable {limits : Limits Seconds} {run : RunHandle} {looks : List (Look Seconds)}

/-- The number of polls that a wait has counted; a wait that a poll has broken tells none. -/
def State.polls? : State Seconds → Option Nat
  | .going .opening => some 0
  | .going (.polling watch) | .going (.pausing watch) => some watch.polls
  | .ended (.succeeded polls) | .ended (.runFailed polls _) | .ended (.timedOut polls _) =>
    some polls
  | .ended (.broken _) => none

/-- A judged poll is counted. -/
lemma polls?_judge {watch : Watch Seconds} {look : Look Seconds} {polls : Nat}
    (h : (judge limits run watch look).polls? = some polls) : polls = watch.polls + 1 := by
  unfold judge at h
  split at h
  · cases h
  · cases h
    rfl
  · cases h
    rfl
  · split at h
    · cases h
      rfl
    · cases h
      rfl

/-- A wait counts its polls. -/
lemma Reaches.polls_eq {s : State Seconds} (h : Reaches limits run s looks) {polls : Nat}
    (hpolls : s.polls? = some polls) : polls = looks.length := by
  induction h generalizing polls with
  | opening | started =>
    cases hpolls
    rfl
  | polled _ judged ih =>
    rw [← judged] at hpolls
    rw [polls?_judge hpolls, ih rfl, List.length_append, List.length_singleton]
  | paused _ ih => exact ih hpolls

/-- A wait that has ended was ended by its last poll. -/
lemma Reaches.exists_last {ending : Ending Seconds}
    (h : Reaches limits run (.ended ending) looks) : ∃ before watch look,
      looks = before ++ [look] ∧ judge limits run watch look = .ended ending := by
  cases h with
  | polled _ judged => exact ⟨_, _, _, rfl, judged⟩

end Wait

namespace StopJob

/-! ### Exits -/

/-- The ways in which a job returns. -/
inductive Exit where
  /-- The deployment was not running. -/
  | skipped
  /-- The teardown could not be started, or the name of the service could not be found out. -/
  | unstarted
  /-- A poll raised a failure. -/
  | unpolled
  /-- The run was reported to have failed. -/
  | runFailed
  /-- The deadline came while the run was pending. -/
  | timedOut
  /-- The run succeeded, and `stopped` could not be written. -/
  | unrecorded
  | stopped
deriving DecidableEq, Repr

namespace Exit

/-- The stages of a job, each with what became of it. -/
def stages : Exit → List (String × String)
  | skipped => [("precondition", "skipped")]
  | unstarted => [("teardown", "started"), ("run", "failed")]
  | unpolled => [("teardown", "started"), ("teardown", "dispatched"), ("run", "failed")]
  | runFailed =>
    [("teardown", "started"), ("teardown", "dispatched"), ("wait", "failed"), ("run", "failed")]
  | timedOut =>
    [("teardown", "started"), ("teardown", "dispatched"), ("wait", "timed_out"), ("run", "failed")]
  | unrecorded =>
    [("teardown", "started"), ("teardown", "dispatched"), ("wait", "completed"), ("run", "failed")]
  | stopped =>
    [("teardown", "started"), ("teardown", "dispatched"), ("wait", "completed"), ("run", "success")]

/-- What a job says of its deployment. -/
def verdict : Exit → Verdict
  | skipped => .skipped
  | stopped => .success
  | _ => .failed

/-- The call that decides on an exit. -/
inductive Shows : Exit → Call → Prop
  | skipped {id s d} (idle : d.status.isStoppable = false) :
      Shows skipped (.deployment id s (.ok d))
  | start {inst cause} : Shows unstarted (.start inst (.error cause))
  | source {cause} : Shows unstarted (.source (.error cause))
  | unpolled {run cause} : Shows unpolled (.poll run (.error cause))
  | runFailed {run cause} : Shows runFailed (.poll run (.ok (.failed cause)))
  | timedOut {run} : Shows timedOut (.poll run (.ok .pending))
  | unrecorded {id s t cause} : Shows unrecorded (.write id .stopped none s t (.error cause))
  | stopped {id s t} : Shows stopped (.write id .stopped none s t (.ok ()))

/-- The calls of a job end with the one that decides on its exit; after that, at most a failure is
reconciled. -/
inductive Concludes (id : Int) : Exit → List Call → Prop
  | plain {exit call} (before : List Call) (shown : Shows exit call)
      (unfailed : exit.verdict ≠ .failed) : Concludes id exit (before ++ [call])
  | reconciled {exit call s t} (before : List Call) (shown : Shows exit call)
      (failed : exit.verdict = .failed) (text : String) :
      Concludes id exit (before ++ [call, .write id .failed (some text) s t (.ok ())])

/-- Different exits go through different stages. -/
lemma stages_injective : Function.Injective stages := by
  intro a b h
  cases a <;> cases b <;> first | rfl | exact absurd h (by decide)

/-- A call decides on one exit only. -/
lemma Shows.unique {a b : Exit} {call : Call} (ha : a.Shows call) (hb : b.Shows call) : a = b := by
  cases ha <;> cases hb <;> rfl

/-- The reconciliation of a failure decides on no exit. -/
lemma not_shows_reconciliation {exit : Exit} {id : Int} {error : Option String} {s t : Store}
    {result : Except Failure Unit} : ¬ exit.Shows (.write id .failed error s t result) :=
  fun h => by cases h

/-- Calls conclude with one exit only. -/
lemma Concludes.unique {id : Int} {a b : Exit} {calls : List Call} (ha : Concludes id a calls)
    (hb : Concludes id b calls) : a = b := by
  -- The last call, or the one before it, is the same for both.
  cases ha with
  | @plain call before shown =>
    generalize hcalls : before ++ [call] = calls at hb
    cases hb with
    | plain before' shown' =>
      obtain rfl := List.singleton_inj.mp (List.append_inj_right' hcalls rfl)
      exact shown.unique shown'
    | reconciled before' shown' =>
      rw [List.append_cons before'] at hcalls
      obtain rfl := List.singleton_inj.mp (List.append_inj_right' hcalls rfl)
      exact absurd shown not_shows_reconciliation
  | @reconciled call s t before shown _ text =>
    generalize hcalls : before ++ [call, .write id .failed (some text) s t (.ok ())] = calls at hb
    cases hb with
    | plain before' shown' =>
      rw [List.append_cons before] at hcalls
      obtain rfl := List.singleton_inj.mp (List.append_inj_right' hcalls rfl)
      exact absurd shown' not_shows_reconciliation
    | reconciled before' shown' =>
      obtain ⟨rfl, _⟩ := List.cons.inj (List.append_inj_right' hcalls rfl)
      exact shown.unique shown'

/-- The last stage says how the job went. -/
lemma getLast?_stages (exit : Exit) :
    (exit.stages.map Prod.snd).getLast? = some exit.verdict.status := by
  cases exit <;> rfl

end Exit

/-! ### Events that are true -/

/-- What an event says of the run and of the polls is what the calls say.  The events of the
dispatch and of the wait do say it. -/
structure Faithful (calls : List Call) (event : StageEvent) : Prop where
  run_id : ∀ id, ("run_id", id) ∈ event.details →
    ∃ run, calls.filterMap Call.started? = [run] ∧ id = run.id.toJson
  poll_count : ∀ count, ("poll_count", count) ∈ event.details →
    count = .int (calls.countP Call.isPoll)
  identified : event.status = "dispatched" ∨ event.stage = "wait" →
    ∃ id, ("run_id", id) ∈ event.details
  counted : event.stage = "wait" → ∃ count, ("poll_count", count) ∈ event.details

section Faithful

variable {config : Config Seconds} {inst : Instance} {calls work : List Call} {events : Timeline}

/-- Calls to the storage start no run and are no polls. -/
lemma local_calls {calls : List Call} (h : ∀ call ∈ calls, call.isRemote = false) :
    calls.filterMap Call.started? = [] ∧ calls.countP Call.isPoll = 0 := by
  constructor
  · refine List.filterMap_eq_nil_iff.mpr fun call hcall => ?_
    have hlocal := h call hcall
    cases call with
    | start => cases hlocal
    | _ => rfl
  · refine List.countP_eq_zero.mpr fun call hcall => ?_
    have hlocal := h call hcall
    cases call with
    | poll => cases hlocal
    | _ => exact Bool.false_ne_true

/-- Calls to the storage, before and after the others, take nothing from the truth of an event. -/
lemma Faithful.frame {event : StageEvent} {before after : List Call} (h : Faithful work event)
    (hbefore : ∀ call ∈ before, call.isRemote = false)
    (hafter : ∀ call ∈ after, call.isRemote = false) :
    Faithful (before ++ (work ++ after)) event := by
  have hstarted : (before ++ (work ++ after)).filterMap Call.started? =
      work.filterMap Call.started? := by
    simp [(local_calls hbefore).1, (local_calls hafter).1]
  have hpolls : (before ++ (work ++ after)).countP Call.isPoll = work.countP Call.isPoll := by
    simp [(local_calls hbefore).2, (local_calls hafter).2]
  refine ⟨?_, ?_, h.identified, h.counted⟩
  · rw [hstarted]
    exact h.run_id
  · rw [hpolls]
    exact h.poll_count

/-- The calls up to the mark go to the storage. -/
lemma Marked.local (h : Marked config inst calls) : ∀ call ∈ calls, call.isRemote = false := by
  obtain ⟨⟨⟨_⟩, _, _⟩, _⟩ := h
  simp [Call.isRemote]

/-- An event that names neither a run nor a number of polls, and need not, is true. -/
lemma Faithful.of_silent {event : StageEvent}
    (hkeys : ∀ detail ∈ event.details, detail.1 ≠ "run_id" ∧ detail.1 ≠ "poll_count")
    (hstatus : event.status ≠ "dispatched") (hstage : event.stage ≠ "wait") :
    Faithful calls event where
  run_id _ hid := absurd rfl (hkeys _ hid).1
  poll_count _ hcount := absurd rfl (hkeys _ hcount).2
  identified h := absurd h (not_or.mpr ⟨hstatus, hstage⟩)
  counted h := absurd h hstage

/-- The event of a dispatch is true if the run was started. -/
lemma faithful_dispatched {run : RunHandle} (source : String)
    (hstarted : calls.filterMap Call.started? = [run]) :
    Faithful calls (dispatched source run) where
  run_id _ hid := ⟨run, hstarted, by simpa [dispatched] using hid⟩
  poll_count _ hcount := by simp [dispatched] at hcount
  identified _ := ⟨run.id.toJson, by simp [dispatched]⟩
  counted h :=
    have hother : "teardown" ≠ "wait" := by decide
    absurd h hother

/-- The event of a wait is true if the run was started and all polls are counted. -/
lemma Wait.faithful_events {run : RunHandle} {ending : Wait.Ending Seconds}
    (hstarted : calls.filterMap Call.started? = [run])
    (hpolls : ∀ polls, (Wait.State.ended ending).polls? = some polls →
      polls = calls.countP Call.isPoll) :
    ∀ event ∈ ending.events run, Faithful calls event := by
  intro event hevent
  -- All events of a wait begin with the same two details.
  obtain ⟨polls, more, hended, hdetails, hmore⟩ : ∃ polls more,
      (Wait.State.ended ending).polls? = some polls ∧
      event.details = ("run_id", run.id.toJson) :: ("poll_count", .int polls) :: more ∧
      ∀ detail ∈ more, detail.1 ≠ "run_id" ∧ detail.1 ≠ "poll_count" := by
    cases ending with
    | broken => cases hevent
    | succeeded =>
      obtain rfl := List.mem_singleton.mp hevent
      exact ⟨_, _, rfl, rfl, by simp⟩
    | runFailed | timedOut =>
      obtain rfl := List.mem_singleton.mp hevent
      exact ⟨_, _, rfl, rfl, by simp⟩
  refine ⟨fun id hid => ⟨run, hstarted, ?_⟩, fun count hcount => ?_, fun _ => ?_, fun _ => ?_⟩
  · rw [hdetails] at hid
    have hother : ("run_id", id) ∉ more := fun h => (hmore _ h).1 rfl
    simpa [hother] using hid
  · rw [hdetails] at hcount
    have hother : ("poll_count", count) ∉ more := fun h => (hmore _ h).2 rfl
    rw [← hpolls polls hended]
    simpa [hother] using hcount
  · exact ⟨_, hdetails ▸ List.mem_cons_self⟩
  · exact ⟨_, hdetails ▸ List.mem_cons_of_mem _ List.mem_cons_self⟩

/-- The events of a dispatch and of a wait are true of the calls of the wait. -/
lemma faithful_watching {run : RunHandle} {source : String} {looks : List (Wait.Look Seconds)}
    {ending : Wait.Ending Seconds}
    (reached : Wait.Reaches config.limits run (.ended ending) looks) :
    ∀ event ∈ dispatched source run :: ending.events run,
      Faithful (watching inst run source looks) event := by
  have hstarted : (watching inst run source looks).filterMap Call.started? = [run] := by
    simp [watching, Call.started?, pollOf]
  have hpolls : (watching inst run source looks).countP Call.isPoll = looks.length := by
    simp [watching, Call.isPoll, pollOf, List.countP_map, Function.comp_def]
  refine List.forall_mem_cons.mpr ⟨faithful_dispatched source hstarted, ?_⟩
  refine Wait.faithful_events hstarted fun polls hended => ?_
  rw [hpolls]
  exact reached.polls_eq hended

/-- The events that the work of a job leaves are true of its calls. -/
lemma Tried.faithful {result : Except Failure RunHandle} (checked : config.limits.check = .ok ())
    (tried : Tried config inst work events result) : ∀ event ∈ events, Faithful work event := by
  cases tried with
  | start | source => exact List.forall_mem_nil _
  | limits refused =>
    rw [checked] at refused
    cases refused
  | wait _ reached _ => exact faithful_watching reached
  | record _ reached _ | stopped _ reached _ _ =>
    intro event hevent
    exact (faithful_watching reached event hevent).frame (List.forall_mem_nil _)
      (List.forall_mem_singleton.mpr rfl)

/-- The whole timeline of a job that has done its work is true, if its last event is. -/
lemma Tried.faithful_timeline {result : Except Failure RunHandle} {last : StageEvent}
    {after : List Call} (marked : Marked config inst calls)
    (checked : config.limits.check = .ok ()) (tried : Tried config inst work events result)
    (hafter : ∀ call ∈ after, call.isRemote = false)
    (hlast : Faithful (calls ++ (work ++ after)) last) :
    ∀ event ∈ begun :: events ++ [last], Faithful (calls ++ (work ++ after)) event := by
  have hbegun : Faithful (calls ++ (work ++ after)) begun :=
    .of_silent (by simp [begun]) (by decide) (by decide)
  refine List.forall_mem_append.mpr ⟨List.forall_mem_cons.mpr ⟨hbegun, fun event hevent => ?_⟩,
    List.forall_mem_singleton.mpr hlast⟩
  exact (tried.faithful checked event hevent).frame marked.local hafter

end Faithful

/-! ### The exit of the work -/

section Work

variable {config : Config Seconds} {inst : Instance} {work : List Call} {events : Timeline}

/-- A wait that fails shows the exit by its last poll. -/
lemma Wait.shows_of_error {run : RunHandle} {looks : List (Wait.Look Seconds)}
    {ending : Wait.Ending Seconds} {cause : Failure}
    (reached : Wait.Reaches config.limits run (.ended ending) looks)
    (failed : ending.result config.limits run = .error cause) :
    ∃ exit before look, looks = before ++ [look] ∧ Exit.Shows exit (pollOf run look) ∧
      exit.verdict = .failed ∧
      exit.stages = ("teardown", "started") :: ("teardown", "dispatched") ::
        ((ending.events run).map StageEvent.names ++ [("run", "failed")]) := by
  obtain ⟨before, watch, ⟨result, now⟩, rfl, hjudge⟩ := reached.exists_last
  rcases result with failure | (_ | _ | cause')
  · cases hjudge
    exact ⟨.unpolled, before, _, rfl, .unpolled, rfl, rfl⟩
  · unfold Wait.judge at hjudge
    dsimp only at hjudge
    split at hjudge
    · cases hjudge
      exact ⟨.timedOut, before, _, rfl, .timedOut, rfl, rfl⟩
    · cases hjudge
  · cases hjudge
    cases failed
  · cases hjudge
    exact ⟨.runFailed, before, _, rfl, .runFailed, rfl, rfl⟩

/-- A wait that succeeds leaves one event. -/
lemma Wait.names_of_ok {run : RunHandle} {ending : Wait.Ending Seconds} {polls : Nat}
    (succeeded : ending.result config.limits run = .ok polls) :
    (ending.events run).map StageEvent.names = [("wait", "completed")] := by
  cases ending with
  | succeeded => rfl
  | runFailed | timedOut | broken => cases succeeded

/-- The stages of a job that has failed after its mark. -/
lemma Tried.exit_of_error {cause : Failure} (checked : config.limits.check = .ok ())
    (tried : Tried config inst work events (.error cause)) :
    ∃ exit before call, work = before ++ [call] ∧ Exit.Shows exit call ∧ exit.verdict = .failed ∧
      exit.stages = (begun :: events ++ [brokenBy cause]).map StageEvent.names := by
  cases tried with
  | start => exact ⟨.unstarted, [], _, rfl, .start, rfl, rfl⟩
  | source => exact ⟨.unstarted, [_], _, rfl, .source, rfl, rfl⟩
  | limits refused =>
    rw [checked] at refused
    cases refused
  | wait _ reached failed =>
    obtain ⟨exit, before, look, rfl, shown, hverdict, hstages⟩ :=
      Wait.shows_of_error reached failed
    refine ⟨exit, _, _, (watching_snoc ..).symm, shown, hverdict, ?_⟩
    rw [hstages]
    simp [StageEvent.names, begun, dispatched, brokenBy]
  | record _ _ succeeded =>
    refine ⟨.unrecorded, _, _, rfl, .unrecorded, rfl, ?_⟩
    rw [List.map_append, List.map_cons, List.map_cons, Wait.names_of_ok succeeded]
    rfl

/-- The stages of a job that has stopped its deployment. -/
lemma Tried.exit_of_ok {run : RunHandle} (tried : Tried config inst work events (.ok run)) :
    ∃ before call, work = before ++ [call] ∧ Exit.Shows .stopped call ∧
      Exit.stopped.stages =
        (begun :: events ++ [(⟨"run", "success", []⟩ : StageEvent)]).map StageEvent.names := by
  cases tried with
  | stopped _ _ succeeded _ =>
    refine ⟨_, _, rfl, .stopped, ?_⟩
    rw [List.map_append, List.map_cons, List.map_cons, Wait.names_of_ok succeeded]
    rfl

end Work

/-! ### Evidence of an exit -/

/-- What a returned job says of an exit is so: its stages are those of this exit, the calls that it
has made conclude with it, and the events are true of the calls.  The row of a job that failed holds
the text of the last event. -/
structure Evidence (config : Config Seconds) (calls : List Call) (t : Store) (result : JobResult)
    (exit : Exit) : Prop where
  stages : result.timeline.map StageEvent.names = exit.stages
  concludes : exit.Concludes config.deploymentId calls
  status : result.status = exit.verdict.status
  faithful : ∀ event ∈ result.timeline, Faithful calls event
  stored : exit.verdict = .failed → ∃ kind text row,
    result.timeline.getLast? =
      some ⟨"run", "failed", [("error_type", .str kind), ("error_message", .str text)]⟩ ∧
    t.row? config.deploymentId = some row ∧ row.status = Status.failed.text ∧
    row.error = some ("failed to stop deployment: " ++ text)

/-- Neither the stages nor the calls allow for another exit, and the last stage says how the job
went. -/
structure Diagnosis (config : Config Seconds) (calls : List Call) (t : Store) (result : JobResult)
    (exit : Exit) : Prop extends Evidence config calls t result exit where
  unique : ∀ other : Exit, result.timeline.map StageEvent.names = other.stages → other = exit
  decided : ∀ other : Exit, other.Concludes config.deploymentId calls → other = exit
  last : (result.timeline.map StageEvent.status).getLast? = some result.status

/-- Evidence of an exit leaves no other one. -/
lemma Evidence.diagnosis {config : Config Seconds} {calls : List Call} {t : Store}
    {result : JobResult} {exit : Exit} (h : Evidence config calls t result exit) :
    Diagnosis config calls t result exit where
  toEvidence := h
  unique _ hother := Exit.stages_injective (hother.symm.trans h.stages)
  decided _ hother := hother.unique h.concludes
  last := by
    have hstatuses : result.timeline.map StageEvent.status = exit.stages.map Prod.snd := by
      rw [← h.stages, List.map_map]
      rfl
    rw [hstatuses, Exit.getLast?_stages, h.status]

/-- The end of a journey is evidence of an exit. -/
lemma Journey.evidence {config : Config Seconds} {state : State Seconds} {calls : List Call}
    {s t : Store} {log : List Log.Entry} {result : JobResult} (h : Journey config state calls)
    (checked : config.limits.check = .ok ()) (htells : Tells s calls t)
    (hdone : next config name state = .done log (.ok result)) :
    ∃ exit, Evidence config calls t result exit := by
  cases h with
  | reading | locating | marking | starting | naming | waiting | recording | reconciling
  | raised => cases hdone
  | skipped found idle =>
    cases hdone
    obtain ⟨_⟩ := found
    exact ⟨.skipped, {
      stages := rfl
      concludes := .plain [] (.skipped idle) (by decide)
      status := rfl
      faithful := List.forall_mem_singleton.mpr (.of_silent (by simp) (by simp) (by simp))
      stored := fun h => absurd h (by decide) }⟩
  | @stopped inst run marking work events marked tried =>
    cases hdone
    obtain ⟨before, call, rfl, shown, hstages⟩ := tried.exit_of_ok
    have hlast : Faithful (marking ++ (before ++ [call] ++ [])) ⟨"run", "success", []⟩ :=
      .of_silent (by simp) (by decide) (by decide)
    have hfaithful := tried.faithful_timeline marked checked (List.forall_mem_nil _) hlast
    rw [List.append_nil] at hfaithful
    have hconcludes : Exit.stopped.Concludes config.deploymentId (marking ++ before ++ [call]) :=
      .plain _ shown (by decide)
    rw [List.append_assoc] at hconcludes
    exact ⟨.stopped, {
      stages := hstages.symm
      concludes := hconcludes
      status := rfl
      faithful := hfaithful
      stored := fun h => absurd h (by decide) }⟩
  | @failed inst marking work events cause u v marked tried _ =>
    cases hdone
    obtain ⟨exit, before, call, rfl, shown, hverdict, hstages⟩ := tried.exit_of_error checked
    rw [← List.append_assoc] at htells
    obtain ⟨row, hrow, hstatus, herror⟩ := htells.of_last_write
    have hconcludes : exit.Concludes config.deploymentId (marking ++ before ++
        [call, .write config.deploymentId .failed (some (failureText cause)) u v (.ok ())]) :=
      .reconciled _ shown hverdict _
    rw [List.append_assoc] at hconcludes
    exact ⟨exit, {
      stages := hstages.symm
      concludes := by rw [List.append_assoc before]; exact hconcludes
      status := by rw [hverdict]; rfl
      faithful := tried.faithful_timeline marked checked (List.forall_mem_singleton.mpr rfl)
        (.of_silent (by simp [brokenBy]) (by simp [brokenBy]) (by simp [brokenBy]))
      stored := fun _ => ⟨_, _, row, List.getLast?_concat .., hrow, hstatus, herror⟩ }⟩

/-! ### The theorem -/

/-- A job that can be built has limits that its wait accepts. -/
lemma build_eq_ok {m : Type → Type} [Monad m] {surroundings : Surroundings m Seconds}
    {config : Config Seconds} {job : Job m} (h : build surroundings config = .ok job) :
    config.limits.check = .ok () ∧ execute surroundings config = job := by
  obtain ⟨_, hcheck, rfl⟩ := Except.exists_of_map_eq_ok h
  refine ⟨?_, rfl⟩
  unfold Config.check at hcheck
  unfold Wait.Limits.check
  split at hcheck
  · cases hcheck
  · split at hcheck
    · cases hcheck
    · rename_i htimeout hinterval
      rw [if_neg htimeout, if_neg hinterval]

/-- A job that was built and returns leaves a true diagnosis, whatever the answers of the service,
the tables and the failures of the storage are.  Its calls are the ones that it has added to the
record. -/
theorem returned_diagnosis {ρ : Type} (env : Environment ρ) (client : WorkflowClient (StateM ρ))
    (config : Config Seconds) (called : String) (w : World ρ) (job : Job (Play ρ))
    (result : JobResult) (hbuilt : build (env.surroundings client.remote) config = .ok job)
    (hreturned : ((job called).run w).1 = .returned result) :
    let final := ((job called).run w).2
    ∃ calls, final.record = w.record ++ calls.map (Event.mk w.turn) ∧
      ∃ exit, Diagnosis config calls final.store result exit := by
  intro final
  obtain ⟨checked, rfl⟩ := build_eq_ok hbuilt
  have hname : Text.strip called = name := by
    by_contra hne
    rw [execute_of_ne_name _ config hne] at hreturned
    cases hreturned
  obtain ⟨s, calls, t, hjourney, htells, hscene, hend⟩ := execute_journey env client config hname w
  have hstore : final.store = t := congrArg Scene.store hscene
  refine ⟨calls, congrArg Scene.record hscene, ?_⟩
  rw [hstore]
  obtain ⟨log, hdone⟩ := hend (.ok result) hreturned
  obtain ⟨exit, hevidence⟩ := hjourney.evidence checked htells hdone
  exact ⟨exit, hevidence.diagnosis⟩

/-- The teardown succeeds, but the write of `stopped` fails: the timeline says just this. -/
theorem unrecorded_diagnosis : ∃ result, unrecorded.1 = .returned result ∧
    ∃ calls, unrecorded.2.record = calls.map (Event.mk 0) ∧
      Diagnosis ⟨1, ⟨.whole 10, .whole 1⟩⟩ calls unrecorded.2.store result .unrecorded := by
  have hreturns : ((outcomeOf unrecorded.1).bind fun outcome => outcome.toOption.map fun result =>
      result.timeline.map StageEvent.names) = some Exit.unrecorded.stages := by
    decide +kernel
  obtain ⟨outcome, houtcome, hoption⟩ := Option.bind_eq_some_iff.mp hreturns
  obtain ⟨result, rfl, hstages⟩ : ∃ result, outcome = .ok result ∧
      result.timeline.map StageEvent.names = Exit.unrecorded.stages := by
    cases outcome with
    | ok result => exact ⟨result, rfl, Option.some.inj hoption⟩
    | error _ => cases hoption
  have hreturned : unrecorded.1 = .returned result := eq_of_outcomeOf houtcome
  refine ⟨result, hreturned, ?_⟩
  unfold unrecorded at hreturned ⊢
  obtain ⟨calls, hrecord, exit, hdiagnosis⟩ :=
    returned_diagnosis faltering prompt ⟨1, ⟨.whole 10, .whole 1⟩⟩ name
      (World.opening { history := 1 } Github.oneRunning
        [none, none, none, some (.store (.deploymentUnwritable 1))])
      (execute (faltering.surroundings prompt.remote) ⟨1, ⟨.whole 10, .whole 1⟩⟩) result rfl
      hreturned
  obtain rfl := hdiagnosis.unique .unrecorded hstages
  exact ⟨calls, hrecord, hdiagnosis⟩

end StopJob

end Teardown
