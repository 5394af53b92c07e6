import Mathlib.Data.List.Perm.Basic
import Mathlib.Tactic.Lemma
import Teardown.Api
import Teardown.Proofs.Task.History
import Teardown.Proofs.Task.Submission
import Teardown.Proofs.Turns

/-!
# Requests and the runs of the queue behind them

A request to stop a deployment is answered when its task is in the queue, and one run of the queue
is due after it.  The run does not execute the task of its own request: it takes whatever is next.
It has three steps, between which other requests are answered and other runs make their steps, in
any order (`attend`).

`Balanced` is the account that is kept: the accepted tasks are those that were fetched by some run
and those that wait; there are as many tasks waiting as runs that are due; and the tasks in flight
are those that some run holds.  Every step of anybody keeps it (`Happens.balanced`), and so no
accepted task is lost, none is executed twice, and no run finds the queue empty.
-/

namespace Teardown

/-- The interface of a worker in an environment. -/
def Environment.service {ρ : Type} (env : Environment ρ) (client : WorkflowClient (Play ρ))
    (name target : String) (health : StateM ρ (Except Database.HealthError String)) :
    Api.Service (Play ρ) where
  environmentName := name
  target := target
  checkHealth := Play.outside health
  repository := env.repository
  runner := env.runner client

namespace Api

/-! ### Runs in three steps -/

/-- How far a run of the queue is. -/
inductive Stage where
  | due
  | fetched (task : QueuedTask)
  | executed (task : QueuedTask) (x : Execution)
  | settled (task : QueuedTask) (attempt : Attempt)
  /-- The run has found no task. -/
  | idle

namespace Stage

section Advance

variable {m : Type → Type} [Monad m] [MonadStateOf Queue m]

/-- The next step of a run. -/
def advance (r : Runner m) : Stage → m Stage
  | .due => do
    match ← Runner.fetch with
    | none => return .idle
    | some task => return .fetched task
  | .fetched task => return .executed task (← r.execute task.text)
  | .executed task x => return .settled task (← r.settle task x)
  | .settled task attempt => return .settled task attempt
  | .idle => return .idle

/-- How the run has ended. -/
def attempt? : Stage → Option Attempt
  | .settled _ attempt => some attempt
  | .idle => some .idle
  | .due | .fetched _ | .executed _ _ => none

/-- The three steps of a run that nobody interrupts are a run of the next task. -/
theorem attempt?_advance [LawfulMonad m] (r : Runner m) :
    attempt? <$> (advance r .due >>= advance r >>= advance r) = some <$> r.runNext := by
  simp only [advance, Runner.runNext, map_eq_pure_bind, bind_assoc]
  congr 1
  funext task?
  cases task? with
  | none => simp [attempt?]
  | some task => simp [attempt?]

end Advance

/-- The run has not fetched yet. -/
def isDue : Stage → Bool
  | .due => true
  | _ => false

/-- The run has ended, and its task was acknowledged. -/
def isFinished : Stage → Bool
  | .settled _ (.finished _) => true
  | _ => false

/-- The id of the task that the run has fetched. -/
def fetched? : Stage → Option String
  | .due | .idle => none
  | .fetched task | .executed task _ | .settled task _ => some task.id

/-- The id of the task that the run has executed. -/
def executed? : Stage → Option String
  | .due | .idle | .fetched _ => none
  | .executed task _ | .settled task _ => some task.id

/-- The ids of the executed tasks after the next step of the run, which may execute its task. -/
def note (executed : List String) : Stage → List String
  | .fetched task => executed ++ [task.id]
  | .due | .executed _ _ | .settled _ _ | .idle => executed

/-- The id of the task that the run has fetched and not acknowledged. -/
def held? : Stage → Option String
  | .due | .idle | .settled _ (.finished _) => none
  | .fetched task | .executed task _ | .settled task _ => some task.id

/-- The run has found a task, and if it has ended, then with the outcome of this task, or it was
interrupted, or its job never ended. -/
def Sound : Stage → Prop
  | .due | .fetched _ | .executed _ _ | .settled _ .unfinished => True
  | .settled task (.finished outcome) => outcome.taskId = task.id
  | .settled _ (.broken failure) => failure.isInterrupt = true
  | .settled _ .idle | .idle => False

end Stage

/-! ### The account -/

/-- What becomes of the queue when a task is settled. -/
inductive Settles (q : Queue) (task : QueuedTask) : Attempt → Queue → Prop where
  | finished {outcome failure} (names : outcome.taskId = task.id)
      (flying : task.id ∈ Queue.ids q.inFlight) :
      Settles q task (.finished outcome) (q.marked task.id failure)
  | interrupted {failure} (interrupt : failure.isInterrupt = true) :
      Settles q task (.broken failure) q
  | unfinished : Settles q task .unfinished q
  | lost (grounded : task.id ∉ Queue.ids q.inFlight) :
      Settles q task (.broken (.notInFlight task.id)) q

/-- The account of the tasks: those that were accepted, those that were executed, those that the
runs have in hand, and those in the queue. -/
structure Balanced (accepted executed : List String) (runs : List Stage) (q : Queue) : Prop where
  accepted : accepted.Perm (runs.filterMap Stage.fetched? ++ Queue.ids q.pending)
  executed : executed.Perm (runs.filterMap Stage.executed?)
  due : q.pending.length = runs.countP Stage.isDue
  flying : (Queue.ids q.inFlight).Perm (runs.filterMap Stage.held?)
  sound : ∀ stage ∈ runs, stage.Sound

section Balanced

variable {accepted executed : List String} {runs runs' : List Stage} {q q' : Queue}
variable {task : QueuedTask} {id text : String} {x : Execution} {attempt : Attempt}

/-- Nothing is accepted yet. -/
lemma balanced_nil (history : Nat) : Balanced [] [] [] { history } where
  accepted := .nil
  executed := .nil
  due := rfl
  flying := .nil
  sound stage hstage := by cases hstage

/-- The order of the runs does not matter. -/
lemma Balanced.perm (h : Balanced accepted executed runs q) (hruns : runs.Perm runs') :
    Balanced accepted executed runs' q where
  accepted := h.accepted.trans ((hruns.filterMap _).append_right _)
  executed := h.executed.trans (hruns.filterMap _)
  due := h.due.trans (hruns.countP_eq _)
  flying := h.flying.trans (hruns.filterMap _)
  sound stage hstage := h.sound stage (hruns.mem_iff.mpr hstage)

/-- A task is accepted, and one more run is due. -/
lemma Balanced.push (h : Balanced accepted executed runs q) :
    Balanced (accepted ++ [id]) executed (.due :: runs) (q.push id text) where
  accepted := by
    have hids : Queue.ids (q.push id text).pending = Queue.ids q.pending ++ [id] :=
      List.map_append
    rw [hids, ← List.append_assoc]
    exact h.accepted.append_right [id]
  executed := h.executed
  due := by
    have hlength : (q.push id text).pending.length = q.pending.length + 1 := List.length_append
    rw [hlength, h.due]
    exact (List.countP_cons_of_pos rfl).symm
  flying := h.flying
  sound := List.forall_mem_cons.mpr ⟨trivial, h.sound⟩

/-- While a run is due, the queue is not empty. -/
lemma Balanced.pending_ne_nil (h : Balanced accepted executed (.due :: runs) q) :
    q.pending ≠ [] := by
  intro hempty
  have hdue := h.due
  rw [hempty, List.countP_cons_of_pos rfl] at hdue
  cases hdue

/-- A run that is due fetches the next task. -/
lemma Balanced.fetch {rest : List QueuedTask} (h : Balanced accepted executed (.due :: runs) q)
    (hnext : q.pending = task :: rest) :
    Balanced accepted executed (.fetched task :: runs)
      { q with pending := rest, inFlight := q.inFlight ++ [task] } where
  accepted := by
    have haccepted : accepted.Perm (runs.filterMap Stage.fetched? ++ Queue.ids q.pending) :=
      h.accepted
    rw [hnext] at haccepted
    exact haccepted.trans List.perm_middle
  executed := h.executed
  due := by
    have hdue := h.due
    rw [hnext, List.countP_cons_of_pos rfl] at hdue
    rw [List.countP_cons_of_neg Bool.false_ne_true]
    exact Nat.succ.inj hdue
  flying := by
    have hids : Queue.ids (q.inFlight ++ [task]) = Queue.ids q.inFlight ++ [task.id] :=
      List.map_append
    have hflying : (Queue.ids q.inFlight).Perm (runs.filterMap Stage.held?) := h.flying
    rw [hids]
    exact (hflying.append_right _).trans (List.perm_append_singleton _ _)
  sound := List.forall_mem_cons.mpr ⟨trivial, (List.forall_mem_cons.mp h.sound).2⟩

/-- A run executes the task that it has fetched. -/
lemma Balanced.execute (h : Balanced accepted executed (.fetched task :: runs) q) :
    Balanced accepted (executed ++ [task.id]) (.executed task x :: runs) q where
  accepted := h.accepted
  executed := by
    have hexecuted : executed.Perm (runs.filterMap Stage.executed?) := h.executed
    exact (hexecuted.append_right _).trans (List.perm_append_singleton _ _)
  due := h.due
  flying := h.flying
  sound := List.forall_mem_cons.mpr ⟨trivial, (List.forall_mem_cons.mp h.sound).2⟩

/-- What some of the runs tell is part of what they all tell. -/
lemma filterMap_sublist {f g : Stage → Option String}
    (h : ∀ stage, f stage = none ∨ f stage = g stage) (runs : List Stage) :
    (runs.filterMap f).Sublist (runs.filterMap g) := by
  induction runs with
  | nil => exact .slnil
  | cons stage runs ih =>
    rcases h stage with hnone | hsame
    · rw [List.filterMap_cons_none hnone]
      exact ih.trans ((List.sublist_cons_self stage runs).filterMap g)
    · cases hg : g stage with
      | none =>
        rw [List.filterMap_cons_none (hsame.trans hg), List.filterMap_cons_none hg]
        exact ih
      | some id =>
        rw [List.filterMap_cons_some (hsame.trans hg), List.filterMap_cons_some hg]
        exact ih.cons_cons id

/-- The tasks that runs hold are some of those that they have fetched. -/
lemma held_sublist (runs : List Stage) :
    (runs.filterMap Stage.held?).Sublist (runs.filterMap Stage.fetched?) := by
  refine filterMap_sublist (fun stage => ?_) runs
  cases stage with
  | due | idle => exact .inl rfl
  | fetched task | executed task x => exact .inr rfl
  | settled task attempt =>
    cases attempt with
    | finished outcome => exact .inl rfl
    | idle | broken _ | unfinished => exact .inr rfl

/-- The tasks that runs have executed are some of those that they have fetched. -/
lemma executed_sublist (runs : List Stage) :
    (runs.filterMap Stage.executed?).Sublist (runs.filterMap Stage.fetched?) := by
  refine filterMap_sublist (fun stage => ?_) runs
  cases stage with
  | due | idle | fetched _ => exact .inl rfl
  | executed _ _ | settled _ _ => exact .inr rfl

/-- The ids of the fetched tasks are distinct. -/
lemma Balanced.nodup_fetched (h : Balanced accepted executed runs q) (hdistinct : accepted.Nodup) :
    (runs.filterMap Stage.fetched?).Nodup :=
  (List.nodup_append.mp (h.accepted.nodup_iff.mp hdistinct)).1

/-- The ids of the tasks in flight are distinct. -/
lemma Balanced.nodup_inFlight (h : Balanced accepted executed runs q) (hdistinct : accepted.Nodup) :
    (Queue.ids q.inFlight).Nodup := by
  exact h.flying.nodup_iff.mpr ((h.nodup_fetched hdistinct).sublist (held_sublist runs))

/-- A run settles the task that it has executed, which is in flight. -/
lemma Balanced.settle (h : Balanced accepted executed (.executed task x :: runs) q)
    (hdistinct : accepted.Nodup) (hsettles : Settles q task attempt q') :
    Balanced accepted executed (.settled task attempt :: runs) q' := by
  have hflying : (Queue.ids q.inFlight).Perm (task.id :: runs.filterMap Stage.held?) := h.flying
  have hsound : ∀ stage ∈ runs, stage.Sound := (List.forall_mem_cons.mp h.sound).2
  cases hsettles with
  | @finished outcome failure names flying =>
    refine ⟨h.accepted, h.executed, h.due, ?_, List.forall_mem_cons.mpr ⟨names, hsound⟩⟩
    have hids : Queue.ids (q.marked task.id failure).inFlight =
        (Queue.ids q.inFlight).erase task.id := by
      rw [(h.nodup_inFlight hdistinct).erase_eq_filter]
      unfold Queue.ids Queue.marked
      rw [List.filter_map]
      rfl
    rw [hids]
    exact (hflying.erase task.id).trans (.of_eq (List.erase_cons_head ..))
  | interrupted interrupt =>
    exact ⟨h.accepted, h.executed, h.due, hflying, List.forall_mem_cons.mpr ⟨interrupt, hsound⟩⟩
  | unfinished =>
    exact ⟨h.accepted, h.executed, h.due, hflying, List.forall_mem_cons.mpr ⟨trivial, hsound⟩⟩
  | lost grounded => exact absurd (hflying.mem_iff.mpr List.mem_cons_self) grounded

end Balanced

/-! ### Requests and steps in any order -/

/-- The id that a reply gives to the task that it has accepted. -/
def Reply.taskId? (reply : Reply) : Option String :=
  match reply.status, reply.body with
  | 202, .json v =>
    match Json.get? "task_id" v with
    | some (.str id) => some id
    | _ => none
  | _, _ => none

/-- The replies so far, the runs of the queue, and the ids of the tasks in the order in which they
were executed. -/
structure Desk where
  replies : List Reply := []
  runs : List Stage := []
  executed : List String := []

/-- The ids of the tasks that were accepted. -/
def Desk.accepted (d : Desk) : List String :=
  d.replies.filterMap Reply.taskId?

/-- What happens next: a request is answered, or a run makes a step. -/
inductive Occasion where
  | request (r : Request)
  | step (k : Nat)

section Attend

variable {m : Type → Type} [Monad m] [MonadStateOf Queue m]

/-- Answers a request, after which a run may be due, or lets a run make its next step. -/
def Desk.next (s : Service m) (d : Desk) : Occasion → m Desk
  | .request r => do
    let handled ← s.handle r
    return { d with
      replies := d.replies ++ [handled.reply]
      runs := if handled.runDue then d.runs ++ [.due] else d.runs }
  | .step k =>
    match d.runs[k]? with
    | none => return d
    | some stage => do
      let stage' ← stage.advance s.runner
      return { d with
        runs := d.runs.set k stage'
        executed := stage.note d.executed }

/-- Attends to one occasion after the other. -/
def Desk.attend (s : Service m) : List Occasion → Desk → m Desk
  | [], d => return d
  | occasion :: schedule, d => do Desk.attend s schedule (← d.next s occasion)

end Attend

/-- What a request does to the queue: its task is accepted under an id, and a run is due; or
nothing is accepted, and the queue is left alone. -/
inductive Handles (q : Queue) : Handled → Queue → Prop where
  | accepted {handled id text} (names : handled.reply.taskId? = some id)
      (due : handled.runDue = true) : Handles q handled (q.push id text)
  | rejected {handled} (names : handled.reply.taskId? = none) (idle : handled.runDue = false) :
      Handles q handled q

/-- Without a run that is due, nothing was accepted. -/
lemma Handles.queue_eq {q q' : Queue} {handled : Handled} (h : Handles q handled q')
    (hidle : handled.runDue = false) : q' = q := by
  cases h with
  | accepted _ due =>
    rw [hidle] at due
    cases due
  | rejected => rfl

/-- All that can happen at one occasion. -/
inductive Happens (d : Desk) (q : Queue) : Desk → Queue → Prop where
  | accepted {reply id text} (names : reply.taskId? = some id) :
      Happens d q { d with replies := d.replies ++ [reply], runs := d.runs ++ [.due] }
        (q.push id text)
  | rejected {reply} (names : reply.taskId? = none) :
      Happens d q { d with replies := d.replies ++ [reply] } q
  | nothing : Happens d q d q
  | fetched {k task rest} (run : d.runs[k]? = some .due) (next : q.pending = task :: rest) :
      Happens d q { d with runs := d.runs.set k (.fetched task) }
        { q with pending := rest, inFlight := q.inFlight ++ [task] }
  | idle {k} (run : d.runs[k]? = some .due) (empty : q.pending = []) :
      Happens d q { d with runs := d.runs.set k .idle } q
  | executed {k task x} (run : d.runs[k]? = some (.fetched task)) :
      Happens d q
        { d with runs := d.runs.set k (.executed task x), executed := d.executed ++ [task.id] } q
  | settled {k task x attempt q'} (run : d.runs[k]? = some (.executed task x))
      (settles : Settles q task attempt q') :
      Happens d q { d with runs := d.runs.set k (.settled task attempt) } q'

section Happens

variable {d d' : Desk} {q q' : Queue}

/-- The account of a desk. -/
abbrev Desk.Balanced (d : Desk) (q : Queue) : Prop :=
  Api.Balanced d.accepted d.executed d.runs q

/-- One run may be looked at first. -/
lemma runs_perm {runs : List Stage} {k : Nat} {stage : Stage} (hrun : runs[k]? = some stage) :
    runs.Perm (stage :: runs.eraseIdx k) ∧
      ∀ stage', (stage' :: runs.eraseIdx k).Perm (runs.set k stage') := by
  obtain ⟨hlt, rfl⟩ := List.getElem?_eq_some_iff.mp hrun
  exact ⟨(List.getElem_cons_eraseIdx_perm hlt).symm, fun stage' =>
    (List.set_perm_cons_eraseIdx hlt stage').symm⟩

/-- A run that is put back where it was changes nothing. -/
lemma runs_set_self {runs : List Stage} {k : Nat} {stage : Stage} (hrun : runs[k]? = some stage) :
    runs.set k stage = runs := by
  obtain ⟨hlt, rfl⟩ := List.getElem?_eq_some_iff.mp hrun
  exact List.set_getElem_self hlt

/-- What was accepted stays accepted. -/
lemma Happens.accepted_grows (h : Happens d q d' q') : d.accepted <+: d'.accepted := by
  cases h with
  | accepted | rejected => exact (List.prefix_append _ _).filterMap _
  | nothing | fetched | idle | executed | settled => exact List.prefix_rfl

/-- Whatever happens, the account stays balanced. -/
theorem Happens.balanced (h : d.Balanced q) (hdistinct : d.accepted.Nodup)
    (hhappens : Happens d q d' q') : d'.Balanced q' := by
  unfold Desk.Balanced at h ⊢
  cases hhappens with
  | @accepted reply id text names =>
    have haccepted : d.accepted ++ [id] =
        (d.replies ++ [reply]).filterMap Reply.taskId? := by
      rw [Queue.filterMap_concat, names]
      rfl
    rw [Desk.accepted, ← haccepted]
    exact h.push.perm (List.perm_append_singleton _ _).symm
  | @rejected reply names =>
    have haccepted : d.accepted = (d.replies ++ [reply]).filterMap Reply.taskId? := by
      rw [Queue.filterMap_concat, names, Option.toList_none, List.append_nil]
      rfl
    rw [Desk.accepted, ← haccepted]
    exact h
  | nothing => exact h
  | fetched run next =>
    obtain ⟨hfirst, hset⟩ := runs_perm run
    exact ((h.perm hfirst).fetch next).perm (hset _)
  | idle run empty =>
    obtain ⟨hfirst, _⟩ := runs_perm run
    exact absurd empty (h.perm hfirst).pending_ne_nil
  | executed run =>
    obtain ⟨hfirst, hset⟩ := runs_perm run
    exact (h.perm hfirst).execute.perm (hset _)
  | settled run settles =>
    obtain ⟨hfirst, hset⟩ := runs_perm run
    exact ((h.perm hfirst).settle hdistinct settles).perm (hset _)

end Happens

/-! ### What the worker does -/

section Worker

variable {ρ : Type} (env : Environment ρ) {client : WorkflowClient (Play ρ)} {σ : Teardown.Service}

/-- A task is settled when it is acknowledged, unless it is not in flight. -/
lemma acknowledge_settles {task : QueuedTask} (failure : Option String) {outcome : Outcome}
    (report : Play ρ Attempt) (hnames : outcome.taskId = task.id)
    (hreport : ∀ w, (report.run w).1 = .finished outcome ∧ (report.run w).2.queue = w.queue)
    (w : World ρ) :
    let settled := (do
      match ← Runner.acknowledge task.id failure with
      | .error cause => return .broken cause
      | .ok _ => report : Play ρ Attempt).run w
    Settles w.queue task settled.1 settled.2.queue := by
  intro settled
  simp only [settled, Play.run_bind, Play.run_acknowledge]
  by_cases hflying : task.id ∈ Queue.ids w.queue.inFlight
  · rw [if_pos hflying]
    obtain ⟨hattempt, hqueue⟩ := hreport { w with queue := w.queue.marked task.id failure }
    dsimp only
    rw [hattempt, hqueue]
    exact .finished hnames hflying
  · rw [if_neg hflying]
    exact .lost hflying

/-- What settling a task does to the queue. -/
lemma settle_settles (task : QueuedTask) (x : Execution) (w : World ρ) :
    let settled := ((env.runner client).settle task x).run w
    Settles w.queue task settled.1 settled.2.queue := by
  intro settled
  obtain ⟨taskType, ending⟩ := x
  cases ending with
  | unfinished => exact .unfinished
  | raised failure =>
    cases hinterrupt : failure.isInterrupt with
    | true =>
      have hsettled : settled = (.broken failure, w) := by
        simp only [settled, Runner.settle, hinterrupt]
        rfl
      rw [hsettled]
      exact .interrupted hinterrupt
    | false =>
      let label := "task " ++ task.id ++ " (" ++ taskType.getD "None" ++ ")"
      let v := (((env.runner client).write (Runner.entry .error (label ++ " failed"))).run w).2
      have hsettles := acknowledge_settles (some failure.line)
        (pure (.finished ⟨task.id, taskType, .error failure.line⟩)) rfl (fun _ => ⟨rfl, rfl⟩) v
      simp only [settled, Runner.settle, hinterrupt]
      exact hsettles
  | returned result =>
    let label := "task " ++ task.id ++ " (" ++ taskType.getD "None" ++ ")"
    exact acknowledge_settles none (do
      (env.runner client).write
        (Runner.entry .info (label ++ " completed with status '" ++ result.status ++ "'"))
      return .finished ⟨task.id, taskType, .ok result⟩) rfl (fun _ => ⟨rfl, rfl⟩) w

/-- A step of a run. -/
lemma advance_happens (hclient : client.KeepsTo σ) {d : Desk} {k : Nat} {stage : Stage}
    (hrun : d.runs[k]? = some stage) (w : World ρ) :
    let advanced := (stage.advance (env.runner client)).run w
    Happens d w.queue
      { d with
        runs := d.runs.set k advanced.1
        executed := stage.note d.executed }
      advanced.2.queue := by
  intro advanced
  cases stage with
  | due =>
    cases hpending : w.queue.pending with
    | nil =>
      have hadvanced : advanced = (.idle, w) := by
        simp only [advanced, Stage.advance, Play.run_bind, fetch_of_nil hpending]
        rfl
      rw [hadvanced]
      exact .idle hrun hpending
    | cons task rest =>
      have hadvanced : advanced = (.fetched task, { w with queue :=
          { w.queue with pending := rest, inFlight := w.queue.inFlight ++ [task] } }) := by
        simp only [advanced, Stage.advance, Play.run_bind, Play.run_fetch_cons hpending]
        rfl
      rw [hadvanced]
      exact .fetched hrun hpending
  | fetched task =>
    obtain ⟨calls, t, _, _, hscene⟩ := execute_calls env hclient task.text w
    have hkept : (((env.runner client).execute task.text).run w).2.queue =
        (w.toScene.after calls t).queue := congrArg Scene.queue hscene
    have hqueue : advanced.2.queue = w.queue := hkept
    rw [hqueue]
    exact .executed hrun
  | executed task x => exact .settled hrun (settle_settles env task x w)
  | settled task attempt =>
    have hadvanced : advanced = (.settled task attempt, w) := rfl
    rw [hadvanced, runs_set_self hrun]
    exact .nothing
  | idle =>
    have hadvanced : advanced = (.idle, w) := rfl
    rw [hadvanced, runs_set_self hrun]
    exact .nothing

variable (client) (name target : String) (health : StateM ρ (Except Database.HealthError String))

/-- A request to stop a deployment is accepted, or it leaves the queue alone. -/
lemma stop_handles (id query : String) (w : World ρ) :
    let handled := ((env.service client name target health).stop id query).run w
    Handles w.queue handled.1 handled.2.queue := by
  intro handled
  cases hread : StopInput.read id query with
  | error faults =>
    have hhandled : handled = ({ reply := .unprocessable faults }, w) := by
      simp only [handled, Service.stop, hread]
      rfl
    rw [hhandled]
    exact .rejected rfl rfl
  | ok input =>
    have hrunner : (env.service client name target health).runner = env.runner client := rfl
    cases hvalid : (env.runner client).registry.validate input.task with
    | error cause =>
      have hhandled : handled =
          ({ reply := if cause.isInvalid then .refusal 400 cause.message else .broken }, w) := by
        simp only [handled, Service.stop, hread, hrunner, Runner.submit, hvalid]
        rfl
      rw [hhandled]
      refine .rejected ?_ rfl
      cases cause.isInvalid with
      | true => rfl
      | false => rfl
    | ok fields =>
      cases hcheck : Queue.check input.task.text with
      | error reason =>
        have hhandled : handled = ({ reply := .broken }, w) := by
          simp only [handled, Service.stop, hread, hrunner, Runner.submit, hvalid, Runner.enqueue,
            hcheck]
          rfl
        rw [hhandled]
        exact .rejected rfl rfl
      | ok _ =>
        obtain ⟨taskId, htaskId⟩ : ∃ taskId, taskId = (env.newId.run w.outside).1 := ⟨_, rfl⟩
        have hreply : handled.1 = ⟨.object 202 [("status", .str "submitted"),
            ("task_id", .str taskId), ("task_type", .str input.task.taskType)], true⟩ := by
          simp only [handled, Service.stop, hread, hrunner, Runner.submit, hvalid, Runner.enqueue,
            hcheck, htaskId]
          rfl
        have hqueue : handled.2.queue = w.queue.push taskId input.task.text := by
          simp only [handled, Service.stop, hread, hrunner, Runner.submit, hvalid, Runner.enqueue,
            hcheck, htaskId]
          rfl
        rw [hreply, hqueue]
        exact .accepted rfl rfl

/-- A reply that accepts nothing, from an operation that leaves the queue alone. -/
def Declines (x : Play ρ Reply) : Prop :=
  ∀ w, (x.run w).1.taskId? = none ∧ (x.run w).2.queue = w.queue

lemma declines_pure {reply : Reply} (h : reply.taskId? = none) :
    Declines (pure reply : Play ρ Reply) := fun _ => ⟨h, rfl⟩

lemma Declines.bind {α : Type} {x : Play ρ α} {f : α → Play ρ Reply}
    (hx : ∀ w, (x.run w).2.queue = w.queue) (hf : ∀ a, Declines (f a)) : Declines (x >>= f) :=
  fun w => ⟨(hf _ _).1, (hf _ _).2.trans (hx w)⟩

/-- Describing a deployment accepts nothing. -/
lemma deployment_declines (id : String) :
    Declines ((env.service client name target health).deployment id) := by
  unfold Service.deployment
  cases readId id with
  | error fault => exact declines_pure rfl
  | ok number =>
    refine Declines.bind (fun w => ?_) fun result => ?_
    · have hqueue := congrArg Scene.queue (Play.noted_scene (fun seen _ => .deployment number seen)
        (StopJob.guarded_inspect env (Store.getDeployment number) w).1)
      exact hqueue
    · cases result with
      | ok d => exact declines_pure rfl
      | error failure =>
        cases failure with
        | store cause =>
          refine declines_pure ?_
          cases cause.isMissing with
          | true => rfl
          | false => rfl
        | _ => exact declines_pure rfl

/-- A report of the health accepts nothing. -/
lemma health_declines : Declines (env.service client name target health).health := by
  refine Declines.bind (fun _ => rfl) fun result => ?_
  cases result with
  | ok detail => exact declines_pure rfl
  | error e =>
    cases e with
    | unreachable => exact declines_pure rfl
    | _ => exact declines_pure rfl

/-- A reply without its body accepts nothing. -/
lemma taskId?_withoutBody (reply : Reply) : reply.withoutBody.taskId? = none := by
  unfold Reply.taskId? Reply.withoutBody
  split
  · rename_i hbody
    cases hbody
  · rfl

/-- No route is followed by a request with the method `HEAD`. -/
lemma ne_head_of_found {r : Request} {route : Route} (h : r.resolve = .found route) :
    r.method ≠ "HEAD" := by
  have hmethod : r.method = route.method := by
    unfold Request.resolve at h
    split at h
    · split at h
      · cases h
        assumption
      · cases h
    · split at h
      · cases h
      · cases h
  rw [hmethod]
  cases route with
  | stop id =>
    have hpost : (Route.stop id).method = "POST" := rfl
    rw [hpost]
    decide
  | service | health =>
    decide
  | deployment id =>
    have hget : (Route.deployment id).method = "GET" := rfl
    rw [hget]
    decide

/-- What follows a route is accepted, or it leaves the queue alone. -/
lemma follow_handles (query : String) (route : Route) (w : World ρ) :
    let handled := ((env.service client name target health).follow query route).run w
    Handles w.queue handled.1 handled.2.queue := by
  intro handled
  have hdeclined : ∀ {x : Play ρ Reply}, Declines x →
      Handles w.queue { reply := (x.run w).1 } (x.run w).2.queue := by
    intro x hx
    rw [(hx w).2]
    exact .rejected (hx w).1 rfl
  cases route with
  | service => exact .rejected rfl rfl
  | health => exact hdeclined (health_declines env client name target health)
  | deployment id => exact hdeclined (deployment_declines env client name target health id)
  | stop id => exact stop_handles env client name target health id query w

/-- A reply without a body to a request that was not accepted. -/
lemma Handles.bodiless {x : Play ρ Handled} {method : String} {w : World ρ}
    (h : Handles w.queue (x.run w).1 (x.run w).2.queue)
    (hhead : method = "HEAD" → (x.run w).1.runDue = false) :
    let handled := (do
      let handled ← x
      if method = "HEAD" then return { handled with reply := handled.reply.withoutBody }
      return handled : Play ρ Handled).run w
    Handles w.queue handled.1 handled.2.queue := by
  intro handled
  by_cases hmethod : method = "HEAD"
  · simp only [handled, Play.run_bind, if_pos hmethod]
    have hqueue : ((x.run w).2).queue = w.queue := h.queue_eq (hhead hmethod)
    have hrejected : Handles w.queue
        { (x.run w).1 with reply := (x.run w).1.reply.withoutBody } (x.run w).2.queue := by
      rw [hqueue]
      exact .rejected (taskId?_withoutBody _) (hhead hmethod)
    exact hrejected
  · simp only [handled, Play.run_bind, if_neg hmethod]
    exact h

/-- A request is accepted, or it leaves the queue alone. -/
lemma handle_handles (r : Request) (w : World ρ) :
    let handled := ((env.service client name target health).handle r).run w
    Handles w.queue handled.1 handled.2.queue := by
  intro handled
  unfold handled Service.handle
  cases hresolve : r.resolve with
  | found route =>
    exact (follow_handles env client name target health r.query route w).bodiless fun hhead =>
      absurd hhead (ne_head_of_found hresolve)
  | wrongMethod | moved | unknown =>
    exact Handles.bodiless (x := pure _) (.rejected rfl rfl) fun _ => rfl

/-- Whatever the occasion, one of the things happens that can happen. -/
theorem next_happens (hclient : client.KeepsTo σ) (d : Desk) (occasion : Occasion) (w : World ρ) :
    let result := (d.next (env.service client name target health) occasion).run w
    Happens d w.queue result.1 result.2.queue := by
  intro result
  cases occasion with
  | request r =>
    have hhandles := handle_handles env client name target health r w
    have hresult : ∀ {handled : Handled} {q : Queue}, Handles w.queue handled q →
        Happens d w.queue
          { d with
            replies := d.replies ++ [handled.reply]
            runs := if handled.runDue then d.runs ++ [.due] else d.runs } q := by
      intro handled q h
      cases h with
      | accepted names due =>
        rw [if_pos due]
        exact .accepted names
      | rejected names idle =>
        rw [if_neg (Bool.eq_false_iff.mp idle)]
        exact .rejected names
    exact hresult hhandles
  | step k =>
    cases hrun : d.runs[k]? with
    | none =>
      have hresult : result = (d, w) := by
        simp only [result, Desk.next, hrun]
        rfl
      rw [hresult]
      exact .nothing
    | some stage =>
      have hhappens := advance_happens env hclient hrun w
      simp only [result, Desk.next, hrun]
      exact hhappens

/-- What was accepted at first is accepted in the end. -/
lemma attend_accepted (hclient : client.KeepsTo σ) (schedule : List Occasion) (d : Desk)
    (w : World ρ) : d.accepted <+:
      ((d.attend (env.service client name target health) schedule).run w).1.accepted := by
  induction schedule generalizing d w with
  | nil => exact List.prefix_rfl
  | cons occasion schedule ih =>
    exact (next_happens env client name target health hclient d occasion w).accepted_grows.trans
      (ih _ _)

/-- Whatever the schedule, the account stays balanced. -/
lemma attend_balanced (hclient : client.KeepsTo σ) (schedule : List Occasion) {d : Desk}
    {w : World ρ} (h : d.Balanced w.queue)
    (hdistinct :
      ((d.attend (env.service client name target health) schedule).run w).1.accepted.Nodup) :
    let final := (d.attend (env.service client name target health) schedule).run w
    final.1.Balanced final.2.queue := by
  induction schedule generalizing d w with
  | nil => exact h
  | cons occasion schedule ih =>
    have hbefore := hdistinct.sublist
      (attend_accepted env client name target health hclient (occasion :: schedule) d w).sublist
    exact ih (Happens.balanced h hbefore
      (next_happens env client name target health hclient d occasion w)) hdistinct

end Worker

/-! ### Every accepted task is executed once -/

/-- What is true of the runs of the queue at every moment. -/
structure Attended (d : Desk) (q : Queue) : Prop where
  /-- There is one run for every accepted task. -/
  length_runs : d.runs.length = d.accepted.length
  /-- As many tasks wait as there are runs that have not fetched yet. -/
  length_pending : q.pending.length = d.runs.countP Stage.isDue
  /-- No run has found the queue empty. -/
  found : ∀ stage ∈ d.runs, ∀ attempt, stage.attempt? = some attempt → attempt ≠ .idle
  /-- The accepted tasks are those that were fetched by some run and those that wait. -/
  accounted : d.accepted.Perm (d.runs.filterMap Stage.fetched? ++ Queue.ids q.pending)
  /-- No task was fetched by two runs. -/
  fetched : (d.runs.filterMap Stage.fetched?).Nodup
  /-- No acknowledgement was refused by the queue. -/
  acknowledged : ∀ stage ∈ d.runs, ∀ id, stage.attempt? ≠ some (.broken (.notInFlight id))
  /-- A run that has ended has finished, unless its job was interrupted or did not end. -/
  ended : ∀ stage ∈ d.runs, ∀ attempt, stage.attempt? = some attempt →
    (∃ outcome, attempt = .finished outcome) ∨
      (∃ failure, attempt = .broken failure ∧ failure.isInterrupt = true) ∨ attempt = .unfinished
  /-- No task was executed twice, and only accepted ones were executed. -/
  executed : d.executed.Nodup ∧ d.executed ⊆ d.accepted
  /-- When all runs have finished, every accepted task was executed exactly once, and none waits or
  is in flight. -/
  finished : (∀ stage ∈ d.runs, stage.isFinished = true) →
    (∀ id ∈ d.accepted, d.executed.count id = 1) ∧ q.pending = [] ∧ q.inFlight = []

section Attended

variable {d : Desk} {q : Queue}

/-- Every run is due or has fetched a task. -/
lemma length_runs_of_sound {runs : List Stage} (h : ∀ stage ∈ runs, stage.Sound) :
    runs.length = (runs.filterMap Stage.fetched?).length + runs.countP Stage.isDue := by
  induction runs with
  | nil => rfl
  | cons stage runs ih =>
    obtain ⟨hstage, hruns⟩ := List.forall_mem_cons.mp h
    rw [List.length_cons, ih hruns]
    cases stage with
    | due =>
      rw [List.filterMap_cons_none rfl, List.countP_cons_of_pos rfl, Nat.add_assoc]
    | idle => cases hstage
    | fetched task | executed task x | settled task attempt =>
      rw [List.countP_cons_of_neg Bool.false_ne_true]
      exact Nat.add_right_comm ..

/-- A run that has ended has finished, unless its job was interrupted or did not end. -/
lemma Stage.Sound.ended {stage : Stage} {attempt : Attempt} (h : stage.Sound)
    (hattempt : stage.attempt? = some attempt) :
    (∃ outcome, attempt = .finished outcome) ∨
      (∃ failure, attempt = .broken failure ∧ failure.isInterrupt = true) ∨
      attempt = .unfinished := by
  cases stage with
  | due | fetched _ | executed _ _ => cases hattempt
  | idle => cases h
  | settled task attempt' =>
    obtain rfl := Option.some.inj hattempt
    cases attempt' with
    | idle => cases h
    | finished outcome => exact .inl ⟨outcome, rfl⟩
    | broken failure => exact .inr (.inl ⟨failure, rfl, h⟩)
    | unfinished => exact .inr (.inr rfl)

/-- A finished run has executed the task that it has fetched, and holds none. -/
lemma Stage.of_isFinished {stage : Stage} (h : stage.isFinished = true) :
    stage.isDue = false ∧ stage.held? = none ∧ stage.executed? = stage.fetched? := by
  cases stage with
  | due | fetched _ | executed _ _ | idle => cases h
  | settled task attempt =>
    cases attempt with
    | finished outcome => exact ⟨rfl, rfl, rfl⟩
    | idle | broken _ | unfinished => cases h

/-- The runs of a balanced account. -/
lemma Desk.Balanced.attended (h : d.Balanced q) (hdistinct : d.accepted.Nodup) : Attended d q where
  length_runs := by
    rw [length_runs_of_sound h.sound, h.accepted.length_eq, List.length_append, ← h.due]
    exact congrArg _ (List.length_map _).symm
  length_pending := h.due
  found stage hstage attempt hattempt := by
    rintro rfl
    obtain ⟨_, hne⟩ | ⟨_, hne, _⟩ | hne := (h.sound stage hstage).ended hattempt
    all_goals cases hne
  accounted := h.accepted
  fetched := h.nodup_fetched hdistinct
  acknowledged stage hstage id hattempt := by
    obtain ⟨_, hne⟩ | ⟨_, hsame, hinterrupt⟩ | hne := (h.sound stage hstage).ended hattempt
    · cases hne
    · obtain rfl := Attempt.broken.inj hsame
      cases hinterrupt
    · cases hne
  ended stage hstage _ := (h.sound stage hstage).ended
  executed := by
    have hsub := executed_sublist d.runs
    refine ⟨h.executed.nodup_iff.mpr ((h.nodup_fetched hdistinct).sublist hsub), fun id hid => ?_⟩
    exact h.accepted.mem_iff.mpr
      (List.mem_append_left _ (hsub.subset (h.executed.mem_iff.mp hid)))
  finished hfinished := by
    have hpending : q.pending = [] := by
      refine List.eq_nil_of_length_eq_zero (h.due.trans (List.countP_eq_zero.mpr ?_))
      intro stage hstage hdue
      rw [(Stage.of_isFinished (hfinished stage hstage)).1] at hdue
      cases hdue
    have hflying : q.inFlight = [] := by
      have hheld : d.runs.filterMap Stage.held? = [] := List.filterMap_eq_nil_iff.mpr
        fun stage hstage => (Stage.of_isFinished (hfinished stage hstage)).2.1
      have hids := h.flying
      rw [hheld] at hids
      exact List.map_eq_nil_iff.mp hids.eq_nil
    refine ⟨fun id hid => ?_, hpending, hflying⟩
    have hexecuted : d.runs.filterMap Stage.executed? = d.runs.filterMap Stage.fetched? :=
      List.filterMap_congr fun stage hstage =>
        (Stage.of_isFinished (hfinished stage hstage)).2.2
    have haccepted : d.accepted.Perm d.executed := by
      have hall := h.accepted
      rw [hpending, ← hexecuted] at hall
      exact (hall.trans (.of_eq (List.append_nil _))).trans h.executed.symm
    rw [← haccepted.count_eq]
    exact List.count_eq_one_of_mem hdistinct hid

end Attended

/-- Whatever requests come, in whatever order the runs of the queue make their steps and however
the jobs end: every accepted task is executed exactly once when all runs have finished, as long as
no id is given twice. -/
theorem accepted_executed_once {ρ : Type} (env : Environment ρ) {client : WorkflowClient (Play ρ)}
    {σ : Teardown.Service} (hclient : client.KeepsTo σ) (name target : String)
    (health : StateM ρ (Except Database.HealthError String)) (history : Nat) (store : Store)
    (outside : ρ) (schedule : List Occasion)
    (hdistinct : ((Desk.attend (env.service client name target health) schedule {}).run
      (World.opening { history } store outside)).1.accepted.Nodup) :
    let final := (Desk.attend (env.service client name target health) schedule {}).run
      (World.opening { history } store outside)
    Attended final.1 final.2.queue := by
  intro final
  have hopening : Desk.Balanced {} (World.opening { history } store outside).queue :=
    balanced_nil history
  have hbalanced : final.1.Balanced final.2.queue :=
    attend_balanced env client name target health hclient schedule hopening hdistinct
  exact hbalanced.attended hdistinct

/-! ### Two requests -/

lemma ofPath?_stop : Route.ofPath? "/deployments/1/stop" = some (.stop "1") := by
  have hsplit : "/deployments/1/stop".splitOn "/" = ["", "deployments", "1", "stop"] := by
    simp +decide [String.splitOn, String.splitOnAux]
  unfold Route.ofPath?
  rw [hsplit]
  decide +kernel

lemma resolve_stop : (⟨"POST", "/deployments/1/stop", ""⟩ : Request).resolve =
    .found (.stop "1") := by
  unfold Request.resolve
  rw [ofPath?_stop]
  decide +kernel

lemma resolve_wrongMethod : (⟨"GET", "/deployments/1/stop", ""⟩ : Request).resolve =
    .wrongMethod := by
  unfold Request.resolve
  rw [ofPath?_stop]
  decide +kernel

lemma read_stop : StopInput.read "1" "" = .ok ⟨1, none, none⟩ := by
  have hfields : Text.formFields "" = [] := by
    simp +decide [Text.formFields, String.splitOn, String.splitOnAux]
  unfold StopInput.read
  rw [hfields]
  rfl

/-- Two requests to stop a deployment, and between them one that is rejected.  The run behind the
second request is faster, and takes the task of the first. -/
def twoRequests : List Occasion :=
  [.request ⟨"POST", "/deployments/1/stop", ""⟩, .request ⟨"GET", "/deployments/1/stop", ""⟩,
    .request ⟨"POST", "/deployments/1/stop", ""⟩, .step 1, .step 0, .step 1, .step 0, .step 1,
    .step 0]

/-- The desk and the world after the two requests and their runs. -/
def afterTwoRequests : Desk × World Nat :=
  (Desk.attend (counting.service silent.remote "test" "" (pure (.ok "up"))) twoRequests {}).run
    (World.opening { history := 2 } { instances := some [], deployments := some [] } 0)

/-- What becomes of the two requests. -/
lemma afterTwoRequests_runs : afterTwoRequests.1.accepted = ["task-1", "task-2"] ∧
    afterTwoRequests.1.runs.map Stage.fetched? = [some "task-2", some "task-1"] ∧
    afterTwoRequests.1.runs.all Stage.isFinished = true := by
  unfold afterTwoRequests twoRequests
  simp only [Desk.attend, Desk.next, Service.handle, resolve_stop, resolve_wrongMethod,
    Service.follow, Service.stop, read_stop]
  decide +kernel

/-- The two accepted tasks are executed once each, and nothing is left in the queue. -/
theorem twoRequests_executed :
    afterTwoRequests.1.accepted.Nodup ∧
      (∀ id ∈ ["task-1", "task-2"], afterTwoRequests.1.executed.count id = 1) ∧
      afterTwoRequests.2.queue.pending = [] ∧ afterTwoRequests.2.queue.inFlight = [] := by
  obtain ⟨haccepted, _, hfinished⟩ := afterTwoRequests_runs
  have hdistinct : afterTwoRequests.1.accepted.Nodup := by
    rw [haccepted]
    decide
  have hattended : Attended afterTwoRequests.1 afterTwoRequests.2.queue := by
    unfold afterTwoRequests at hdistinct ⊢
    exact accepted_executed_once counting silent.remote_keepsTo "test" "" (pure (.ok "up")) 2
      { instances := some [], deployments := some [] } 0 twoRequests hdistinct
  refine ⟨hdistinct, ?_⟩
  rw [← haccepted]
  exact hattended.finished (List.all_eq_true.mp hfinished)

end Api

end Teardown
