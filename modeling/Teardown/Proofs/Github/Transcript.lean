import Mathlib.Tactic.Lemma
import Teardown.Proofs.Github.Service
import Teardown.Proofs.StopJob.Outline

/-!
# The transcript behind a stopped deployment

A job that records `stopped` has exchanged exactly the messages of a `TeardownTranscript`: the start
located a run, and the polls of this run found it pending until the last one found it completed with
success.  No other order of messages and no other answer leads to the record, whatever the service
says and whatever the tables hold.

The messages are read off the course of the job: `Marked` calls send nothing, `Begun` adds what the
start sends, `Watched` what the polls send, and `Achieved` the last poll.
-/

namespace Teardown

/-- The message of a call that sends one. -/
def Call.sent? : Call → Option Sent
  | .send message exchange => some (message, exchange)
  | _ => none

/-- The messages of some calls, each with what came of it. -/
def messages (calls : List Call) : List Sent :=
  calls.filterMap Call.sent?

@[simp] lemma messages_append (calls more : List Call) :
    messages (calls ++ more) = messages calls ++ messages more :=
  List.filterMap_append ..

@[simp] lemma messages_sent (sent : List Sent) : messages (sent.map .ofSent) = sent := by
  unfold messages
  rw [List.filterMap_map]
  exact List.filterMap_some

namespace StopJob

section Messages

variable {σ : Service} {config : Config Seconds} {calls : List Call} {run : RunHandle}

/-- A job sends nothing before it starts its teardown. -/
lemma Marked.messages {inst : Instance} (h : Marked config inst calls) : messages calls = [] := by
  obtain ⟨⟨⟨_⟩, _, _⟩, _⟩ := h
  rfl

/-- A call that is no message adds none. -/
lemma messages_call (sent : List Sent) {call : Call} (h : call.sent? = none) :
    Teardown.messages (sent.map .ofSent ++ [call]) = sent := by
  rw [messages_append, messages_sent]
  unfold Teardown.messages
  rw [List.filterMap_cons_none h, List.filterMap_nil, List.append_nil]

/-- What a job has sent while it waits: the messages of its start, and those of pending polls. -/
lemma Watched.messages (h : Watched σ config run calls) :
    ∃ inst marking rest start, ∃ polls : List (List Sent), Marked config inst marking ∧
      calls = marking ++ rest ∧ σ.starts inst (.ok run) start ∧
      (∀ poll ∈ polls, σ.polls run (.ok .pending) poll) ∧
      Teardown.messages calls = start ++ polls.flatten := by
  induction h with
  | named begun _ =>
    obtain ⟨marked, sends⟩ := begun
    rename_i inst marking start
    refine ⟨inst, marking, _, start, [], marked, List.append_assoc .., sends, ?_, ?_⟩
    · intro poll hpoll
      cases hpoll
    · rw [messages_append, messages_append, marked.messages, messages_call start rfl]
      simp [Teardown.messages, Call.sent?]
  | @pending calls sent _ sends ih =>
    obtain ⟨inst, marking, rest, start, polls, marked, rfl, hstart, hpolls, hmessages⟩ := ih
    refine ⟨inst, marking, _, start, polls ++ [sent], marked, List.append_assoc .., hstart, ?_, ?_⟩
    · have hlast : ∀ poll ∈ [sent], σ.polls run (.ok .pending) poll := fun poll hpoll =>
        List.mem_singleton.mp hpoll ▸ sends
      exact List.forall_mem_append.mpr ⟨hpolls, hlast⟩
    · rw [messages_append, hmessages, messages_call sent rfl, List.flatten_append,
        List.flatten_singleton, List.append_assoc]

/-- What a job has sent when its run was reported to have succeeded. -/
lemma Achieved.messages (h : Achieved σ config run calls) :
    ∃ inst marking rest start, ∃ (polls : List (List Sent)) (last : List Sent),
      Marked config inst marking ∧ calls = marking ++ rest ∧ σ.starts inst (.ok run) start ∧
      (∀ poll ∈ polls, σ.polls run (.ok .pending) poll) ∧ σ.polls run (.ok .succeeded) last ∧
      Teardown.messages calls = start ++ (polls.flatten ++ last) := by
  obtain ⟨watched, sends⟩ := h
  rename_i last
  obtain ⟨inst, marking, rest, start, polls, marked, rfl, hstart, hpolls, hmessages⟩ :=
    watched.messages
  refine ⟨inst, marking, _, start, polls, last, marked, List.append_assoc .., hstart, hpolls, sends,
    ?_⟩
  rw [messages_append, hmessages, messages_call last rfl, List.append_assoc]

/-- A job that has committed its mark and nothing else has not recorded `stopped`. -/
lemma ne_stopped_of_writes {id : Int}
    (h : ∃ s t, calls.filterMap Call.write? = [⟨id, .stopping, none, s, t⟩]) {w : Write}
    (hw : w ∈ calls.filterMap Call.write?) : w.status ≠ .stopped := by
  obtain ⟨s, t, hwrites⟩ := h
  rw [hwrites] at hw
  rw [List.mem_singleton.mp hw]
  exact Status.noConfusion

/-- Only a job whose run was reported to have succeeded has recorded `stopped`. -/
lemma Course.achieved {phase : Phase Seconds} (h : Course σ config phase calls) {w : Write}
    (hw : w ∈ calls.filterMap Call.write?) (hstopped : w.status = .stopped) :
    ∃ run achieving s t, Achieved σ config run achieving ∧
      calls = achieving ++ [.write config.deploymentId .stopped none s t (.ok ())] := by
  have hstarted : ∀ {inst}, Started config inst calls → False := fun started =>
    ne_stopped_of_writes started.writes hw hstopped
  have hidle : (∀ call ∈ calls, call.Idle) → False := fun idle => by
    rw [filterMap_write?_idle idle] at hw
    cases hw
  cases h with
  | reading => cases hw
  | locating found _ | skipped found _ => exact (hidle found.idle).elim
  | marking located => exact (hidle located.idle).elim
  | refused refused => exact (hidle refused.idle).elim
  | starting marked => exact absurd hstopped (ne_stopped_of_writes marked.writes hw)
  | naming begun => exact (hstarted begun.started.choose_spec).elim
  | waiting watched => exact (hstarted watched.started.choose_spec).elim
  | recording achieved => exact (hstarted achieved.started.choose_spec).elim
  | reconciling broken _ | interrupted broken _ =>
    exact (hstarted broken.started.choose_spec).elim
  | unreconciled broken _ =>
    exact (hstarted (broken.started.choose_spec.append (idle_singleton ⟨rfl, rfl⟩))).elim
  | stopped achieved _ => exact ⟨_, _, _, _, achieved, rfl⟩
  | @failed cause earlier s t broken _ _ =>
    rw [List.filterMap_append] at hw
    rcases List.mem_append.mp hw with hmark | hlast
    · exact absurd hstopped (ne_stopped_of_writes broken.started.choose_spec.writes hmark)
    · rw [List.mem_singleton.mp hlast] at hstopped
      cases hstopped

end Messages

end StopJob

/-! ### The theorem -/

namespace Github

/-- The messages of a teardown that is recorded as `stopped`.  After the start, each message asks
for the state of the run that the start has located; it is described, and it has ended, with
success, in the last description only. -/
inductive TeardownTranscript (a : Account) (slug : String) : List Sent → Prop where
  | intro {run : RunHandle} {start polls : List Sent} {m : Message} {x : Exchange}
      {members : Json.Members} (started : StartTranscript a slug run start)
      (pending : ∀ poll ∈ polls, poll.1.AsksState a run.id ∧
        ∃ members, Describes poll.2 members ∧ ¬ Completed members)
      (asks : m.AsksState a run.id) (describes : Describes x members)
      (completed : Completed members) (succeeded : Succeeded members) :
      TeardownTranscript a slug (start ++ (polls ++ [(m, x)]))

/-- Pending polls are messages whose answers describe a run that has not ended. -/
lemma pending_polls {a : Account} {run : RunHandle} {polls : List (List Sent)}
    (h : ∀ poll ∈ polls, a.service.polls run (.ok .pending) poll) :
    ∀ poll ∈ polls.flatten, poll.1.AsksState a run.id ∧
      ∃ members, Describes poll.2 members ∧ ¬ Completed members := by
  intro poll hpoll
  obtain ⟨sent, hsent, hmem⟩ := List.mem_flatten.mp hpoll
  obtain ⟨asks, describes, told⟩ := h sent hsent .pending rfl
  rw [List.mem_singleton.mp hmem]
  exact ⟨asks, _, describes, not_completed_of_runStatus told.symm⟩

/-- A job that works alone and records `stopped` has exchanged a teardown transcript for the
instance of its deployment, whatever the tables, the answers of the service and the failures of the
storage are. -/
theorem execute_transcript {ρ : Type} (env : Environment ρ) (send : Message → StateM ρ Exchange)
    (a : Account) (config : StopJob.Config Seconds) (called : String) (queue : Queue)
    (store : Store) (outside : ρ)
    (hstopped : ∃ e ∈ ((StopJob.execute (env.surroundings (a.client (transport env send))) config
      called).run (World.opening queue store outside)).2.record,
      ∃ w, e.call.write? = some w ∧ w.status = .stopped) :
    let final := ((StopJob.execute (env.surroundings (a.client (transport env send))) config
      called).run (World.opening queue store outside)).2
    ∃ d inst, store.getDeployment config.deploymentId = .ok d ∧
      store.getInstance d.instanceId = .ok inst ∧
      TeardownTranscript a (Text.strip inst.slug) (messages (final.record.map Event.call)) := by
  intro final
  obtain ⟨s, calls, t, hcourse, htells, hscene, _⟩ :=
    StopJob.execute_course env (client_keepsTo env send a) config called
      (World.opening queue store outside)
  have hrecord : final.record = calls.map (Event.mk 0) := congrArg Scene.record hscene
  obtain ⟨e, he, w, hwrite, hstatus⟩ := hstopped
  obtain ⟨call, hcall, rfl⟩ := List.mem_map.mp (hrecord ▸ he)
  have hw : w ∈ calls.filterMap Call.write? := List.mem_filterMap.mpr ⟨call, hcall, hwrite⟩
  obtain ⟨run, achieving, u, v, hachieved, rfl⟩ := hcourse.achieved hw hstatus
  obtain ⟨inst, marking, rest, start, polls, last, hmarked, rfl, hstart, hpolls, hlast,
    hmessages⟩ := hachieved.messages
  -- The instance is the one that the tables hold, since the job works alone.
  obtain ⟨_, hmarking, _⟩ := tells_append.mp (List.append_assoc .. ▸ htells)
  obtain ⟨d, hread, _, hinst⟩ := hmarked.tells hmarking
  have hsent : messages (final.record.map Event.call) = start ++ (polls.flatten ++ last) := by
    have hcalls : ∀ calls : List Call, (calls.map (Event.mk 0)).map Event.call = calls := by
      intro calls
      rw [List.map_map]
      exact List.map_id calls
    rw [hrecord, hcalls, messages_append, hmessages]
    exact List.append_nil _
  refine ⟨d, inst, hread, hinst, ?_⟩
  rw [hsent]
  obtain ⟨asks, describes, told⟩ := hlast .succeeded rfl
  obtain ⟨completed, succeeded⟩ := succeeded_of_runStatus told.symm
  exact .intro (hstart run rfl) (pending_polls hpolls) asks describes completed succeeded

/-! ### A teardown that succeeds -/

/-- A service that gives the answers of a list, one for each message. -/
def rehearsed (_ : Message) : StateM (List Exchange) Exchange := fun
  | [] => (.error .transport, [])
  | x :: rest => (x, rest)

/-- A transport that gives the answers of a list, and neither waits nor writes. -/
def rehearsal : Transport (StateM (List Exchange)) :=
  ⟨rehearsed, fun _ => pure (), fun _ => pure ()⟩

/-- An environment in which nothing fails and no time passes. -/
def calm : Environment (List Exchange) where
  fault := pure none
  stamp := pure "2020-01-02 03:04:06"
  clock := ⟨pure (.whole 0), fun _ => pure ()⟩
  newId := pure ""
  write _ := pure ()
  horizon := 20

/-- An account that looks for its run once. -/
def hasty : Account where
  token := "token"
  owner := "acme"
  repository := "infra"
  workflow := "cleanup.yml"
  ref := "main"
  base := ⟨"", "/", ""⟩
  lookupAttempts := 1
  lookupInterval := .whole 0

/-- Tables with one running deployment. -/
def oneRunning : Store where
  instances := some [⟨1, "demo", "2020-01-02 03:04:05"⟩]
  deployments := some [⟨1, 1, "running", none, "2020-01-02 03:04:05", "2020-01-02 03:04:05"⟩]

/-- No runs, an accepted dispatch, one run for the instance, and its success. -/
def successfulAnswers : List Exchange :=
  [answered (.obj [("workflow_runs", .arr [])]), noContent,
    answered (.obj [("workflow_runs",
      .arr [.obj [("id", .int 7), ("display_title", .str "stop demo")]])]),
    answered (.obj [("status", .str "completed"), ("conclusion", .str "success")])]

/-- The world after the deployment was stopped with these answers. -/
def afterSuccess : World (List Exchange) :=
  ((StopJob.execute (calm.surroundings (hasty.client (transport calm rehearsed)))
    ⟨1, ⟨.whole 10, .whole 1⟩⟩ StopJob.name).run
    (World.opening { history := 1 } oneRunning successfulAnswers)).2

/-- A deployment is recorded as `stopped` with these answers, and by a teardown transcript. -/
theorem afterSuccess_transcript :
    (∃ e ∈ afterSuccess.record, ∃ w, e.call.write? = some w ∧ w.status = .stopped) ∧
    ∃ d inst, oneRunning.getDeployment 1 = .ok d ∧ oneRunning.getInstance d.instanceId = .ok inst ∧
      TeardownTranscript hasty (Text.strip inst.slug)
        (messages (afterSuccess.record.map Event.call)) := by
  have hany : (afterSuccess.record.any fun e =>
      e.call.write?.any (·.status == .stopped)) = true := by
    decide +kernel
  have hstopped : ∃ e ∈ afterSuccess.record, ∃ w, e.call.write? = some w ∧ w.status = .stopped := by
    obtain ⟨e, he, hwrite⟩ := List.any_eq_true.mp hany
    obtain ⟨w, hw, hstatus⟩ := (Option.any_eq_true ..).mp hwrite
    exact ⟨e, he, w, hw, beq_iff_eq.mp hstatus⟩
  refine ⟨hstopped, ?_⟩
  unfold afterSuccess at hstopped ⊢
  exact execute_transcript calm rehearsed hasty ⟨1, ⟨.whole 10, .whole 1⟩⟩ StopJob.name
    { history := 1 } oneRunning successfulAnswers hstopped

end Github

end Teardown
