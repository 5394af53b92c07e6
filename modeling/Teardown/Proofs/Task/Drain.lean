import Mathlib.Tactic.Lemma
import Teardown.Proofs.Turns

/-!
# Draining the queue

A drain runs one task after the other until none waits.  `Ends` says what the execution of a text
comes to: the text cannot be read, its task is refused, its job cannot be built, or its job is
executed.  Whatever it comes to, a runner that is `Orderly` acknowledges the task, and the queue is
then as it was, with one task less waiting and one more finished (`Orderly.run_runNext`).

From this one step, the whole drain follows by induction on the waiting tasks (`Drains`).  That the
queue remembers of every task what became of it comes with its history, which each step continues.
-/

namespace Teardown

variable {ρ : Type}

/-! ### Outcomes -/

namespace Outcome

/-- The message of a task that failed. -/
def message? (outcome : Outcome) : Option String :=
  match outcome.ending with
  | .ok _ => none
  | .error message => some message

/-- The acknowledgement of the task. -/
def mark (outcome : Outcome) : String × Option String :=
  (outcome.taskId, outcome.message?)

/-- The state that the task is left in. -/
def state (outcome : Outcome) : TaskState :=
  match outcome.ending with
  | .ok _ => .completed
  | .error _ => .failed

/-- What the queue says about a task whose acknowledgement it remembers. -/
lemma state_of_lookup {outcome : Outcome} {q : Queue}
    (h : q.finished.lookup outcome.taskId = some outcome.message?) :
    q.state outcome.taskId = outcome.state ∧
      q.failureMessage outcome.taskId = outcome.message? := by
  have hmessage : q.failureMessage outcome.taskId = outcome.message? := by
    unfold Queue.failureMessage
    rw [h]
    rfl
  refine ⟨?_, hmessage⟩
  unfold Queue.state
  rw [h]
  unfold state message?
  cases outcome.ending with
  | ok result => rfl
  | error message => rfl

end Outcome

namespace Runner

/-- What is reported of a job that has ended without an interrupt. -/
inductive Reported : JobEnd → Except String JobResult → Prop where
  | returned (result : JobResult) : Reported (.returned result) (.ok result)
  | raised {failure : Failure} (handled : failure.isInterrupt = false) :
      Reported (.raised failure) (.error failure.line)

/-- Something is reported of every job that ends without an interrupt. -/
lemma exists_reported {ending : JobEnd} (hended : ending ≠ .unfinished)
    (handled : ∀ failure, ending = .raised failure → failure.isInterrupt = false) :
    ∃ reported, Reported ending reported := by
  cases ending with
  | unfinished => exact absurd rfl hended
  | raised failure => exact ⟨_, .raised (handled failure rfl)⟩
  | returned result => exact ⟨_, .returned result⟩

/-- A job that leaves the queue alone and is not interrupted. -/
def Docile (job : Play ρ JobEnd) : Prop :=
  ∀ w : World ρ, (job.run w).2.queue = w.queue ∧
    ∀ failure, (job.run w).1 = .raised failure → failure.isInterrupt = false

/-! ### The execution of a text -/

/-- What the execution of a text comes to in a world: the task type, and the ending. -/
inductive Ends (r : Runner (Play ρ)) (text : String) (w : World ρ) :
    Option String → JobEnd → Prop where
  | unread {report} (read : Envelope.ofText text = .error report) :
      Ends r text w none (.raised (.task (.invalidDescriptor report)))
  | refused {e cause} (read : Envelope.ofText text = .ok e)
      (refused : r.registry.prepare e = .error cause) :
      Ends r text w (some e.taskType) (.raised (.task cause))
  | unbuilt {e prepared failure} (read : Envelope.ofText text = .ok e)
      (valid : r.registry.prepare e = .ok prepared) (unbuilt : prepared.build = .error failure) :
      Ends r text w (some e.taskType) (.raised failure)
  | executed {e prepared job} (read : Envelope.ofText text = .ok e)
      (valid : r.registry.prepare e = .ok prepared) (built : prepared.build = .ok job) :
      Ends r text w (some e.taskType) ((job e.taskType).run w).1

variable {r : Runner (Play ρ)} {text : String} {w : World ρ}

section Execute

variable {e : Envelope} {prepared : Prepared (Play ρ)} {failure : Failure} {job : Job (Play ρ)}

/-- The job of a task whose payload is valid is the one that is prepared. -/
lemma build_of_prepare (h : r.registry.prepare e = .ok prepared) :
    r.registry.build e = prepared.build := by
  unfold Registry.build
  rw [h]

/-- A task that is refused has no job. -/
lemma build_of_refused {cause : Task.Error} (h : r.registry.prepare e = .error cause) :
    r.registry.build e = .error (.task cause) := by
  unfold Registry.build
  rw [h]

lemma run_execute_unread {report : Report} (h : Envelope.ofText text = .error report) :
    (r.execute text).run w = (⟨none, .raised (.task (.invalidDescriptor report))⟩, w) := by
  unfold execute
  rw [h]
  rfl

lemma run_execute_unbuilt (hread : Envelope.ofText text = .ok e)
    (hbuild : r.registry.build e = .error failure) :
    (r.execute text).run w = (⟨some e.taskType, .raised failure⟩, w) := by
  unfold execute
  rw [hread]
  dsimp only
  rw [hbuild]
  rfl

lemma run_execute_built (hread : Envelope.ofText text = .ok e)
    (hbuild : r.registry.build e = .ok job) :
    (r.execute text).run w =
      (⟨some e.taskType, ((job e.taskType).run w).1⟩, ((job e.taskType).run w).2) := by
  unfold execute
  rw [hread]
  dsimp only
  rw [hbuild]
  rfl

end Execute

/-- The execution of a text comes to something. -/
lemma execute_ends (r : Runner (Play ρ)) (text : String) (w : World ρ) :
    Ends r text w ((r.execute text).run w).1.taskType ((r.execute text).run w).1.ending := by
  cases hread : Envelope.ofText text with
  | error report =>
    rw [run_execute_unread hread]
    exact .unread hread
  | ok e =>
    cases hprepare : r.registry.prepare e with
    | error cause =>
      rw [run_execute_unbuilt hread (build_of_refused hprepare)]
      exact .refused hread hprepare
    | ok prepared =>
      have hbuild := build_of_prepare hprepare
      cases hprepared : prepared.build with
      | error failure =>
        rw [run_execute_unbuilt hread (hbuild.trans hprepared)]
        exact .unbuilt hread hprepare hprepared
      | ok job =>
        rw [run_execute_built hread (hbuild.trans hprepared)]
        exact .executed hread hprepare hprepared

/-- The execution of a text comes to nothing else. -/
lemma Ends.execute_eq {taskType : Option String} {ending : JobEnd}
    (h : Ends r text w taskType ending) : ((r.execute text).run w).1 = ⟨taskType, ending⟩ := by
  cases h with
  | unread read => rw [run_execute_unread read]
  | refused read refused => rw [run_execute_unbuilt read (build_of_refused refused)]
  | unbuilt read valid unbuilt =>
    rw [run_execute_unbuilt read ((build_of_prepare valid).trans unbuilt)]
  | executed read valid built =>
    rw [run_execute_built read ((build_of_prepare valid).trans built)]

/-- The task type is that of the text. -/
lemma Ends.taskType_eq {taskType : Option String} {ending : JobEnd}
    (h : Ends r text w taskType ending) :
    taskType = (Envelope.ofText text).toOption.map Envelope.taskType := by
  cases h with
  | unread read | refused read | unbuilt read | executed read =>
    rw [read]
    rfl

/-- Only a job returns a result. -/
lemma Ends.exists_job {taskType : Option String} {ending : JobEnd} {result : JobResult}
    (h : Ends r text w taskType ending) (hreturned : ending = .returned result) :
    ∃ e prepared job, Envelope.ofText text = .ok e ∧ r.registry.prepare e = .ok prepared ∧
      prepared.build = .ok job ∧ ((job e.taskType).run w).1 = .returned result := by
  cases h with
  | unread | refused | unbuilt => cases hreturned
  | executed read valid built => exact ⟨_, _, _, read, valid, built, hreturned⟩

/-! ### What an outcome says -/

/-- An outcome says what the execution of a task has come to in a world. -/
structure Accounts (r : Runner (Play ρ)) (task : QueuedTask) (w : World ρ) (outcome : Outcome) :
    Prop where
  id : outcome.taskId = task.id
  /-- The task type is absent if and only if the text could not be read. -/
  typed : ∀ e, Envelope.ofText task.text = .ok e → outcome.taskType = some e.taskType
  untyped : ∀ report, Envelope.ofText task.text = .error report → outcome.taskType = none
  /-- The task is completed with a result if and only if its job was executed and returned it. -/
  completed : ∀ result, outcome.ending = .ok result ↔ ∃ e prepared job,
    Envelope.ofText task.text = .ok e ∧ r.registry.prepare e = .ok prepared ∧
      prepared.build = .ok job ∧ ((job e.taskType).run w).1 = .returned result
  /-- The task fails if and only if its execution has come to a failure, in the words of it. -/
  failed : ∀ message, outcome.ending = .error message ↔ ∃ failure : Failure,
    Ends r task.text w outcome.taskType (.raised failure) ∧
      message = failure.kind ++ ": " ++ failure.message

/-- What is reported of an execution says what it has come to. -/
lemma Ends.accounts {task : QueuedTask} {taskType : Option String} {ending : JobEnd}
    {reported : Except String JobResult} (h : Ends r task.text w taskType ending)
    (hreported : Reported ending reported) : Accounts r task w ⟨task.id, taskType, reported⟩ := by
  have honly : ∀ {taskType' ending'}, Ends r task.text w taskType' ending' →
      taskType = taskType' ∧ ending = ending' := by
    intro taskType' ending' h'
    have hsame := h.execute_eq.symm.trans h'.execute_eq
    exact ⟨congrArg Execution.taskType hsame, congrArg Execution.ending hsame⟩
  refine ⟨rfl, fun e hread => ?_, fun report hread => ?_, fun result => ⟨?_, ?_⟩,
    fun message => ⟨?_, ?_⟩⟩
  · rw [h.taskType_eq, hread]
    rfl
  · rw [h.taskType_eq, hread]
    rfl
  · rintro rfl
    cases hreported
    exact h.exists_job rfl
  · rintro ⟨e, prepared, job, hread, hvalid, hbuilt, hreturned⟩
    obtain ⟨_, hending⟩ := honly (.executed hread hvalid hbuilt)
    rw [hreturned] at hending
    subst hending
    cases hreported
    rfl
  · rintro rfl
    cases hreported
    exact ⟨_, h, rfl⟩
  · rintro ⟨failure, hraised, rfl⟩
    obtain ⟨_, hending⟩ := honly hraised
    subst hending
    cases hreported
    rfl

/-- A runner that can be relied on: the log leaves the queue alone, and so do the jobs, which end,
and not by an interrupt. -/
structure Orderly (r : Runner (Play ρ)) : Prop where
  write : ∀ entry (w : World ρ), ((r.write entry).run w).2.queue = w.queue
  handled : ∀ e failure, r.registry.build e = .error failure → failure.isInterrupt = false
  docile : ∀ e job, r.registry.build e = .ok job → Docile (job e.taskType)
  ended : ∀ e job, r.registry.build e = .ok job →
    ∀ w : World ρ, ((job e.taskType).run w).1 ≠ .unfinished

section Orderly

variable {task : QueuedTask} {rest : List QueuedTask}

/-- The execution of a text by such a runner leaves the queue alone, and something is reported of
it. -/
lemma Orderly.run_execute (hr : r.Orderly) (text : String) (w : World ρ) :
    ((r.execute text).run w).2.queue = w.queue ∧
      ∃ reported, Reported ((r.execute text).run w).1.ending reported := by
  cases hread : Envelope.ofText text with
  | error report =>
    rw [run_execute_unread hread]
    exact ⟨rfl, _, .raised rfl⟩
  | ok e =>
    cases hbuild : r.registry.build e with
    | error failure =>
      rw [run_execute_unbuilt hread hbuild]
      exact ⟨rfl, _, .raised (hr.handled e failure hbuild)⟩
    | ok job =>
      rw [run_execute_built hread hbuild]
      obtain ⟨hqueue, hhandled⟩ := hr.docile e job hbuild w
      exact ⟨hqueue, exists_reported (hr.ended e job hbuild w) hhandled⟩

/-- A task in flight whose job has ended is settled: its outcome says what is reported, and it is
acknowledged. -/
lemma run_settle (hwrite : ∀ entry (w : World ρ), ((r.write entry).run w).2.queue = w.queue)
    {taskType : Option String} {ending : JobEnd} {reported : Except String JobResult}
    (h : Reported ending reported) (hflying : task.id ∈ Queue.ids w.queue.inFlight) :
    let outcome : Outcome := ⟨task.id, taskType, reported⟩
    ∃ v, (r.settle task ⟨taskType, ending⟩).run w = (.finished outcome, v) ∧
      v.queue = w.queue.marked task.id outcome.message? := by
  intro outcome
  unfold settle
  cases h with
  | returned result =>
    dsimp only
    rw [Play.run_bind, Play.run_acknowledge, if_pos hflying]
    exact ⟨_, rfl, hwrite _ _⟩
  | @raised failure handled =>
    dsimp only
    rw [handled, if_neg Bool.false_ne_true, Play.run_bind, Play.run_bind, Play.run_acknowledge,
      hwrite, if_pos hflying]
    exact ⟨_, rfl, rfl⟩

/-- The world in which the next task is executed: the task has been put in flight. -/
def handing (task : QueuedTask) (rest : List QueuedTask) (w : World ρ) : World ρ :=
  { w with queue := { w.queue with pending := rest, inFlight := w.queue.inFlight ++ [task] } }

/-- The next task is executed and acknowledged, whatever its text. -/
theorem Orderly.run_runNext (hr : r.Orderly) (hwaits : w.queue.pending = task :: rest) :
    ∃ outcome v, r.runNext.run w = (.finished outcome, v) ∧
      Accounts r task (handing task rest w) outcome ∧
      v.queue = (handing task rest w).queue.marked task.id outcome.message? := by
  obtain ⟨x, hx⟩ : ∃ x, x = (r.execute task.text).run (handing task rest w) := ⟨_, rfl⟩
  obtain ⟨hqueue, reported, hreported⟩ := hr.run_execute task.text (handing task rest w)
  have hends := execute_ends r task.text (handing task rest w)
  rw [← hx] at hqueue hreported hends
  have hflying : task.id ∈ Queue.ids x.2.queue.inFlight := by
    rw [hqueue]
    simp [handing, Queue.ids]
  obtain ⟨v, hsettle, hmarked⟩ :=
    @run_settle _ r x.2 task hr.write x.1.taskType _ _ hreported hflying
  refine ⟨_, v, ?_, hends.accounts hreported, ?_⟩
  · rw [← hsettle, Runner.runNext, Play.run_bind, Play.run_fetch_cons hwaits]
    dsimp only
    rw [Play.run_bind]
    exact congrArg (fun y => (r.settle task y.1).run y.2) hx.symm
  · rw [hmarked, hqueue]

/-- No task is run when none waits. -/
lemma run_runNext_idle (r : Runner (Play ρ)) (hidle : w.queue.pending = []) :
    r.runNext.run w = (.idle, w) := by
  unfold Runner.runNext
  rw [Play.run_bind, fetch_of_nil hidle]
  rfl

/-- A drain ends when no task waits. -/
lemma run_drain_idle (r : Runner (Play ρ)) (hidle : w.queue.pending = []) (horizon : Nat) :
    (r.drain (horizon + 1)).run w = (.drained [], w) := by
  unfold drain
  rw [Play.run_bind, run_runNext_idle r hidle]
  rfl

/-- A drain begins with a finished task and goes on with the others. -/
lemma run_drain_finished {v u : World ρ} {outcome : Outcome} {outcomes : List Outcome}
    {horizon : Nat} (hnext : r.runNext.run w = (.finished outcome, v))
    (hrest : (r.drain horizon).run v = (.drained outcomes, u)) :
    (r.drain (horizon + 1)).run w = (.drained (outcome :: outcomes), u) := by
  unfold drain
  rw [Play.run_bind, hnext]
  dsimp only
  rw [Play.run_bind, hrest]
  rfl

end Orderly

/-! ### The drain -/

/-- The waiting tasks are executed one after the other, each in the world that the runs before it
have left. -/
inductive Drains (r : Runner (Play ρ)) : World ρ → List Outcome → World ρ → Prop where
  | idle {w : World ρ} (nothing : w.queue.pending = []) : Drains r w [] w
  | next {w v u : World ρ} {task rest outcome outcomes} (waits : w.queue.pending = task :: rest)
      (accounts : Accounts r task (handing task rest w) outcome)
      (runs : r.runNext.run w = (.finished outcome, v)) (more : Drains r v outcomes u) :
      Drains r w (outcome :: outcomes) u

/-- A drain that may run more tasks than wait runs them all. -/
lemma Drains.run_drain {outcomes : List Outcome} {u : World ρ} (h : Drains r w outcomes u)
    {horizon : Nat} (hlong : outcomes.length < horizon) :
    (r.drain horizon).run w = (.drained outcomes, u) := by
  induction h generalizing horizon with
  | idle nothing =>
    obtain ⟨horizon, rfl⟩ := Nat.exists_eq_add_of_lt hlong
    exact run_drain_idle r nothing _
  | next waits accounts runs more ih =>
    obtain ⟨horizon, rfl⟩ : ∃ k, horizon = k + 1 := ⟨horizon - 1, by omega⟩
    exact run_drain_finished runs (ih (Nat.lt_of_succ_lt_succ hlong))

section History

variable {limit : Nat} {added given : List QueuedTask} {noted : List (String × Option String)}

/-- The queue that is left by a run of the next task, if it follows a history: the task waits no
more, and it is the last of the finished ones. -/
lemma marked_handing {task : QueuedTask} {rest : List QueuedTask}
    (h : Queue.Follows limit added given noted w.queue) (hdistinct : (Queue.ids added).Nodup)
    (hwaits : w.queue.pending = task :: rest) (failure : Option String) :
    (handing task rest w).queue.marked task.id failure =
      { w.queue with
        pending := rest
        finished := Queue.latest limit (w.queue.finished ++ [(task.id, failure)]) } := by
  have hfresh : ∀ other ∈ w.queue.inFlight, (other.id != task.id) = true := by
    intro other hother
    refine bne_iff_ne.mpr fun hsame => ?_
    rw [h.ids_added, hwaits] at hdistinct
    have hgiven := (h.mem_inFlight.mp (List.mem_map_of_mem hother)).1
    rw [hsame] at hgiven
    exact List.disjoint_of_nodup_append hdistinct hgiven List.mem_cons_self
  have hflying : (w.queue.inFlight ++ [task]).filter (·.id != task.id) = w.queue.inFlight := by
    rw [List.filter_append, List.filter_eq_self.mpr hfresh]
    simp
  simp only [Queue.marked, handing, hflying, h.history]

/-- Whatever tasks wait, they are all executed, and the history of the queue goes on with their
acknowledgements. -/
theorem Orderly.drains (hr : r.Orderly) (h : Queue.Follows limit added given noted w.queue)
    (hdistinct : (Queue.ids added).Nodup) :
    ∃ outcomes u, Drains r w outcomes u ∧
      outcomes.map Outcome.taskId = Queue.ids w.queue.pending ∧
      u.queue = { w.queue with
        pending := []
        finished := Queue.latest limit (w.queue.finished ++ outcomes.map Outcome.mark) } ∧
      Queue.Follows limit added added (noted ++ outcomes.map Outcome.mark) u.queue := by
  induction hpending : w.queue.pending generalizing w given noted with
  | nil =>
    have hgiven : given = added := by
      rw [← h.queued, hpending, List.append_nil]
    have hqueue : w.queue = { w.queue with
        pending := [], finished := Queue.latest limit (w.queue.finished ++ []) } := by
      rw [h.finished, Queue.latest_latest_append, List.append_nil, ← h.finished, ← hpending]
    refine ⟨[], w, .idle hpending, rfl, hqueue, ?_⟩
    rw [List.map_nil, List.append_nil, ← hgiven]
    subst hgiven
    exact h
  | cons task rest ih =>
    obtain ⟨outcome, v, hruns, haccounts, hmarked⟩ := hr.run_runNext hpending
    have hflying : task.id ∈ Queue.ids (handing task rest w).queue.inFlight := by
      simp [handing, Queue.ids]
    have hfollows : Queue.Follows limit added (given ++ [task]) (noted ++ [outcome.mark])
        v.queue := by
      rw [hmarked, Outcome.mark, haccounts.id]
      exact (h.hand hdistinct hpending).mark hflying
    rw [marked_handing h hdistinct hpending] at hmarked
    obtain ⟨outcomes, u, hdrains, hids, hqueue, hlast⟩ :=
      ih hfollows (congrArg Queue.pending hmarked)
    refine ⟨outcome :: outcomes, u, .next hpending haccounts hruns hdrains, ?_, ?_, ?_⟩
    · rw [List.map_cons, hids, haccounts.id]
      rfl
    · have hmark : (task.id, outcome.message?) = outcome.mark := by
        rw [Outcome.mark, haccounts.id]
      rw [hqueue, hmarked, Queue.latest_latest_append, List.append_assoc, hmark]
      rfl
    · rw [List.append_assoc] at hlast
      exact hlast

end History

/-- Draining a queue that was called in any way before.  Every waiting task is executed once, in the
order of submission and whatever its text, and the drain returns one outcome for each.  Then no task
waits, none that was executed is in flight, and the queue remembers the acknowledgements of the
outcomes after those that it remembered before: what it says about a task that it still remembers is
the outcome of that task. -/
theorem drain_executes (hr : r.Orderly) (limit : Nat) (calls : List Queue.Call) (w : World ρ)
    (hqueue : w.queue = ((Queue.serve calls).run { history := limit }).2)
    (hdistinct : (Queue.ids (Queue.submitted
      ((Queue.serve calls).run { history := limit }).1)).Nodup) :
    ∃ outcomes u, Drains r w outcomes u ∧
      (∀ horizon > w.queue.pending.length, (r.drain horizon).run w = (.drained outcomes, u)) ∧
      outcomes.map Outcome.taskId = Queue.ids w.queue.pending ∧
      u.queue = { w.queue with
        pending := []
        finished := Queue.latest limit (w.queue.finished ++ outcomes.map Outcome.mark) } ∧
      ∀ outcome ∈ outcomes, outcome.taskId ∉ Queue.ids u.queue.inFlight ∧
        (outcome.taskId ∈ u.queue.finished.map Prod.fst →
          u.queue.state outcome.taskId = outcome.state ∧
            u.queue.failureMessage outcome.taskId = outcome.message?) := by
  have hfollows : Queue.FollowsLog limit ((Queue.serve calls).run { history := limit }).1
      w.queue := by
    rw [hqueue]
    exact @Queue.serve_follows limit [] _ calls (Queue.Follows.opening limit) hdistinct
  obtain ⟨outcomes, u, hdrains, hids, hleft, hlast⟩ := hr.drains hfollows hdistinct
  refine ⟨outcomes, u, hdrains, fun horizon hlong => ?_, hids, hleft, fun outcome hmem =>
    ⟨fun hflying => ?_, fun hkept => ?_⟩⟩
  · have hlength : outcomes.length = w.queue.pending.length := by
      have hcount := congrArg List.length hids
      rwa [Queue.ids, List.length_map, List.length_map] at hcount
    exact hdrains.run_drain (hlength ▸ hlong)
  · refine (hlast.mem_inFlight.mp hflying).2 ?_
    exact List.mem_map_of_mem (List.mem_append_right _ (List.mem_map_of_mem hmem))
  · refine Outcome.state_of_lookup (hlast.lookup_finished.mpr ⟨hkept, ?_⟩)
    exact List.mem_append_right _ (List.mem_map_of_mem hmem)

/-- A job that returns for an empty payload, and raises for any other. -/
def noting (payload : Json.Members) : Job (Play Unit) := fun called =>
  if payload.isEmpty then pure (.returned ⟨called, "success", []⟩)
  else pure (.raised (.named "RuntimeError" "no room"))

/-- A runner with this one kind of job. -/
def clerk : Runner (Play Unit) where
  registry := { handlers := [("note", fun payload =>
    .ok { fields := payload, build := .ok (noting payload) })] }
  newId := pure "note"
  write _ := pure ()

/-- A job of this runner is of that kind, and a task without a job is of an unknown type. -/
lemma build_clerk (e : Envelope) :
    clerk.registry.build e = .ok (noting e.payload) ∨
      clerk.registry.build e = .error (.task (.unknownType e.taskType)) := by
  unfold Registry.build Registry.prepare Registry.lookup clerk
  rw [List.lookup_cons]
  cases e.taskType == "note" with
  | true => exact .inl rfl
  | false => exact .inr rfl

lemma run_noting (payload : Json.Members) (called : String) (w : World Unit) :
    (noting payload called).run w =
      (if payload.isEmpty then .returned ⟨called, "success", []⟩
        else .raised (.named "RuntimeError" "no room"), w) := by
  unfold noting
  split <;> rfl

/-- This runner can be relied on. -/
lemma clerk_orderly : clerk.Orderly where
  write _ _ := rfl
  handled e failure h := by
    rcases build_clerk e with hbuild | hbuild
    · cases hbuild.symm.trans h
    · cases hbuild.symm.trans h
      rfl
  docile e job h w := by
    rcases build_clerk e with hbuild | hbuild
    · cases hbuild.symm.trans h
      rw [run_noting]
      refine ⟨rfl, fun failure hraised => ?_⟩
      split at hraised
      · cases hraised
      · cases hraised
        rfl
    · cases hbuild.symm.trans h
  ended e job h w := by
    rcases build_clerk e with hbuild | hbuild
    · cases hbuild.symm.trans h
      rw [run_noting]
      dsimp only
      split <;> exact JobEnd.noConfusion
    · cases hbuild.symm.trans h

/-- Tasks that cannot be read, that raise, and that return. -/
def threeNotes : List Queue.Call :=
  [.submit "a" "oops",
    .submit "b" "\x7b\"task_type\":\"note\",\"payload\":\x7b\"text\":1\x7d\x7d",
    .submit "c" "\x7b\"task_type\":\"note\",\"payload\":\x7b\x7d\x7d"]

/-- The world in which these tasks wait, for a queue that remembers two. -/
def notesWaiting : World Unit :=
  World.opening ((Queue.serve threeNotes).run { history := 2 }).2 .empty ()

/-- All three are executed, and the first of them is forgotten. -/
theorem threeNotes_drained : ∃ outcomes u,
    (clerk.drain 4).run notesWaiting = (.drained outcomes, u) ∧
      outcomes.map Outcome.taskId = ["a", "b", "c"] ∧
      u.queue.pending = [] ∧ u.queue.inFlight = [] ∧ u.queue.state "a" = .unknown ∧
      u.queue.failureMessage "b" = some "RuntimeError: no room" ∧
      u.queue.state "c" = .completed := by
  obtain ⟨outcomes, u, _, hdrain, hids, hqueue, _⟩ :=
    drain_executes clerk_orderly 2 threeNotes notesWaiting rfl (by decide +kernel)
  have hruns := hdrain 4 (by decide +kernel)
  have hleft : ((clerk.drain 4).run notesWaiting).2.queue.state "a" = .unknown ∧
      ((clerk.drain 4).run notesWaiting).2.queue.failureMessage "b" =
        some "RuntimeError: no room" ∧
      ((clerk.drain 4).run notesWaiting).2.queue.state "c" = .completed := by
    decide +kernel
  rw [hruns] at hleft
  refine ⟨outcomes, u, hruns, hids, ?_, ?_, hleft⟩
  · rw [hqueue]
  · rw [hqueue]
    rfl

end Runner

end Teardown
