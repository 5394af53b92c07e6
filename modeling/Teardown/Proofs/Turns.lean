import Mathlib.Tactic.Lemma
import Teardown.Proofs.StopJob.Outline
import Teardown.Proofs.Task.History

/-!
# Turns of the worker

A turn runs the next task of the queue.  `turns` takes several of them, one after the other, and
numbers them: the calls of turn `k` are those made for the task that was the `k`-th to wait at the
start.  A task that fails, that cannot be read or that ends with an interrupt does not keep the
next turn from being taken.

`History` is what turns leave behind: to the record of the turns before, each turn adds calls with
an outline, of the one deployment that its task names, and those calls tell how the tables went.
`turns_history` says that nothing else happens.
-/

namespace Teardown

/-! ### The deployment that a task names -/

/-- The request that the text of a task holds, if it is the text of a stopping task. -/
def StopRequest.ofText? (text : String) : Option StopRequest :=
  match Envelope.ofText text with
  | .error _ => none
  | .ok e => if e.taskType = taskType then (ofMembers e.payload).toOption else none

/-- The deployment that the `k`-th waiting task names. -/
def Queue.named? (q : Queue) (k : Nat) : Option Int :=
  q.pending[k]?.bind fun task => (StopRequest.ofText? task.text).map StopRequest.deploymentId

/-! ### Turns -/

section Turns

variable {ρ : Type}

/-- Begins the next turn. -/
def Play.nextTurn : Play ρ Unit := fun w =>
  ((), { w with turn := w.turn + 1 })

/-- Runs the next tasks of the queue, one in each turn. -/
def Runner.turns (r : Runner (Play ρ)) : Nat → Play ρ (List Attempt)
  | 0 => pure []
  | n + 1 => do
    let attempts ← r.turns n
    let attempt ← r.runNext
    Play.nextTurn
    return attempts ++ [attempt]

end Turns

/-! ### Bookkeeping -/

section Bookkeeping

variable {ρ α β : Type}

/-- The part of a world that the bookkeeping of the queue leaves alone. -/
def World.trace (w : World ρ) : List QueuedTask × Store × Nat × List Event :=
  (w.queue.pending, w.store, w.turn, w.record)

/-- An operation that leaves the tables, the record and the waiting tasks alone. -/
def Play.Bookkeeping (x : Play ρ α) : Prop :=
  ∀ w, (x.run w).2.trace = w.trace

lemma Play.bookkeeping_pure (a : α) : (pure a : Play ρ α).Bookkeeping := fun _ => rfl

lemma Play.bookkeeping_outside (x : StateM ρ α) : (Play.outside x).Bookkeeping := fun _ => rfl

lemma Play.Bookkeeping.bind {x : Play ρ α} {f : α → Play ρ β} (hx : x.Bookkeeping)
    (hf : ∀ a, (f a).Bookkeeping) : (x >>= f).Bookkeeping := fun w =>
  (hf _ _).trans (hx w)

/-- The next task is fetched and put in flight. -/
lemma Play.run_fetch_cons {w : World ρ} {task : QueuedTask} {rest : List QueuedTask}
    (h : w.queue.pending = task :: rest) : (Runner.fetch : Play ρ _).run w =
      (some task, { w with queue :=
        { w.queue with pending := rest, inFlight := w.queue.inFlight ++ [task] } }) := by
  have hqueue : (getThe Queue : Play ρ Queue).run w = (w.queue, w) := rfl
  unfold Runner.fetch Queue.fetch
  rw [Play.run_bind, hqueue]
  dsimp only
  rw [h]
  rfl

/-- Acknowledging a task in a world. -/
lemma Play.run_acknowledge (id : String) (failure : Option String) (w : World ρ) :
    (Runner.acknowledge id failure : Play ρ _).run w =
      if id ∈ Queue.ids w.queue.inFlight then
        (.ok (), { w with queue := w.queue.marked id failure })
      else (.error (.notInFlight id), w) := by
  have hqueue : (getThe Queue : Play ρ Queue).run w = (w.queue, w) := rfl
  unfold Runner.acknowledge
  rw [Play.run_bind, hqueue, Queue.finish_eq]
  dsimp only
  by_cases hflying : id ∈ Queue.ids w.queue.inFlight
  · rw [if_pos hflying, if_pos hflying]
    rfl
  · rw [if_neg hflying, if_neg hflying]
    rfl

/-- Acknowledging a task leaves the waiting tasks alone. -/
lemma Queue.finish_pending {id : String} {failure : Option String} {q q' : Queue}
    (h : q.finish id failure = .ok q') : q'.pending = q.pending := by
  unfold finish at h
  split at h
  · cases h
    rfl
  · cases h

lemma Runner.acknowledge_bookkeeping (id : String) (failure : Option String) :
    (Runner.acknowledge id failure : Play ρ _).Bookkeeping := by
  intro w
  have hqueue : (getThe Queue : Play ρ Queue).run w = (w.queue, w) := rfl
  unfold Runner.acknowledge
  rw [Play.run_bind, hqueue]
  dsimp only
  split
  · rfl
  · rename_i q hfinish
    exact congrArg (fun pending => (pending, w.store, w.turn, w.record))
      (Queue.finish_pending hfinish)

/-- Settling a task is bookkeeping. -/
lemma Runner.settle_bookkeeping (env : Environment ρ) (client : WorkflowClient (Play ρ))
    (task : QueuedTask) (x : Execution) :
    ((env.runner client).settle task x).Bookkeeping := by
  have hlog : ∀ e, ((env.runner client).write e).Bookkeeping :=
    fun e => Play.bookkeeping_outside (env.write e)
  unfold Runner.settle
  cases x.ending with
  | unfinished => exact Play.bookkeeping_pure _
  | raised failure =>
    dsimp only
    split
    · exact Play.bookkeeping_pure _
    · refine (hlog _).bind fun _ => (acknowledge_bookkeeping _ _).bind fun acknowledged => ?_
      cases acknowledged with
      | error cause => exact Play.bookkeeping_pure _
      | ok _ => exact Play.bookkeeping_pure _
  | returned result =>
    refine (acknowledge_bookkeeping _ _).bind fun acknowledged => ?_
    cases acknowledged with
    | error cause => exact Play.bookkeeping_pure _
    | ok _ => exact (hlog _).bind fun _ => Play.bookkeeping_pure _

end Bookkeeping

/-! ### One turn -/

section Turn

variable {ρ : Type} (env : Environment ρ) {client : WorkflowClient (Play ρ)} {σ : Service}

/-- The calls of a turn whose task has the given text. -/
def TurnCalls (text : String) (calls : List Call) : Prop :=
  calls = [] ∨ ∃ request, StopRequest.ofText? text = some request ∧
    StopJob.Outline (.ofRequest request) calls

/-- The job of a task that is built is the job of the request that the task holds. -/
lemma build_ok {e : Envelope} {job : Job (Play ρ)}
    (h : (env.runner client).registry.build e = .ok job) :
    e.taskType = StopRequest.taskType ∧ ∃ request, StopRequest.ofMembers e.payload = .ok request ∧
      job = StopJob.execute (env.surroundings client) (.ofRequest request) := by
  unfold Registry.build Registry.prepare at h
  by_cases htype : e.taskType = StopRequest.taskType
  · have hlookup : (env.runner client).registry.lookup e.taskType =
        some (StopJob.handler (env.surroundings client)) := by
      rw [htype]
      rfl
    rw [hlookup] at h
    dsimp only [StopJob.handler] at h
    cases hrequest : StopRequest.ofMembers e.payload with
    | error report =>
      rw [hrequest] at h
      cases h
    | ok request =>
      rw [hrequest] at h
      refine ⟨htype, request, rfl, ?_⟩
      have hjob : (StopJob.build (env.surroundings client) (.ofRequest request)).mapError
          Failure.refused = .ok job := h
      obtain ⟨_, _, heq⟩ := Except.exists_of_map_eq_ok (Except.eq_ok_of_mapError hjob)
      exact heq.symm
  · have hne : (e.taskType == StopJob.name) = false := beq_eq_false_iff_ne.mpr htype
    have hlookup : (env.runner client).registry.lookup e.taskType = none := by
      unfold Registry.lookup Environment.runner
      rw [List.lookup_cons, hne, List.lookup_nil]
    rw [hlookup] at h
    cases h

/-- Executing a task follows the outline of the job that the task asks for. -/
theorem execute_calls (hclient : client.KeepsTo σ) (text : String) (w : World ρ) :
    ∃ calls t, TurnCalls text calls ∧ Tells w.store calls t ∧
      (((env.runner client).execute text).run w).2.toScene = w.toScene.after calls t := by
  unfold Runner.execute
  split
  · exact ⟨[], w.store, .inl rfl, rfl, w.toScene.after_nil.symm⟩
  · rename_i e htext
    split
    · exact ⟨[], w.store, .inl rfl, rfl, w.toScene.after_nil.symm⟩
    · rename_i job hbuild
      obtain ⟨htype, request, hrequest, rfl⟩ := build_ok env hbuild
      obtain ⟨s, calls, t, hcourse, htells, hscene, _⟩ :=
        StopJob.execute_course env hclient (.ofRequest request) e.taskType w
      refine ⟨calls, t, .inr ⟨request, ?_, hcourse.outline⟩, htells, hscene⟩
      unfold StopRequest.ofText?
      rw [htext]
      simp [htype, hrequest, Except.toOption]

/-- Nothing is fetched from a queue in which no task waits. -/
lemma fetch_of_nil {w : World ρ} (h : w.queue.pending = []) :
    (Runner.fetch : Play ρ _).run w = (none, w) := by
  have hqueue : (getThe Queue : Play ρ Queue).run w = (w.queue, w) := rfl
  unfold Runner.fetch Queue.fetch
  rw [Play.run_bind, hqueue]
  dsimp only
  rw [h]
  rfl

/-- The next task is fetched, and waits no more. -/
lemma fetch_of_cons {w : World ρ} {task : QueuedTask} {rest : List QueuedTask}
    (h : w.queue.pending = task :: rest) :
    ∃ v : World ρ, (Runner.fetch : Play ρ _).run w = (some task, v) ∧
      v.trace = (rest, w.store, w.turn, w.record) :=
  ⟨_, Play.run_fetch_cons h, rfl⟩

/-- A turn takes the next task out of the queue and makes the calls of that task. -/
theorem runNext_calls (hclient : client.KeepsTo σ) (w : World ρ) :
    ∃ calls t, (calls = [] ∨ ∃ task, w.queue.pending[0]? = some task ∧ TurnCalls task.text calls) ∧
      Tells w.store calls t ∧ ((env.runner client).runNext.run w).2.trace =
        (w.queue.pending.drop 1, t, w.turn, w.record ++ calls.map (Event.mk w.turn)) := by
  unfold Runner.runNext
  rw [Play.run_bind]
  cases hpending : w.queue.pending with
  | nil =>
    refine ⟨[], w.store, .inl rfl, rfl, ?_⟩
    rw [fetch_of_nil hpending]
    show (w.queue.pending, w.store, w.turn, w.record) = _
    rw [hpending, List.map_nil, List.append_nil]
    rfl
  | cons task rest =>
    obtain ⟨v, hfetch, hv⟩ := fetch_of_cons hpending
    obtain ⟨hrest, hstore, hturn, hrecord⟩ : v.queue.pending = rest ∧ v.store = w.store ∧
        v.turn = w.turn ∧ v.record = w.record := by
      simpa [World.trace] using hv
    obtain ⟨calls, t, hcalls, htells, hscene⟩ := execute_calls env hclient task.text v
    refine ⟨calls, t, .inr ⟨task, rfl, hcalls⟩, hstore ▸ htells, ?_⟩
    rw [hfetch]
    dsimp only
    rw [Play.run_bind, Runner.settle_bookkeeping env client task]
    have htrace : (((env.runner client).execute task.text).run v).2.trace =
        (v.queue.pending, t, v.turn, v.record ++ calls.map (Event.mk v.turn)) :=
      congrArg (fun sc : Scene => (sc.queue.pending, sc.store, sc.turn, sc.record)) hscene
    rw [htrace, hrest, hturn, hrecord]
    rfl

end Turn

/-! ### All turns -/

/-- What the first `n` turns leave behind, when the `k`-th task names the deployment `named k`: the
record, and the tables that were `s` at the start. -/
inductive History (named : Nat → Option Int) (s : Store) : Nat → List Event → Store → Prop where
  | opening : History named s 0 [] s
  | pass {n record t} (history : History named s n record t) : History named s (n + 1) record t
  | work {n record t u calls config} (history : History named s n record t)
      (name : named n = some config.deploymentId) (outline : StopJob.Outline config calls)
      (tells : Tells t calls u) :
      History named s (n + 1) (record ++ calls.map (Event.mk n)) u

/-- Turns leave a history behind, whatever the environment does. -/
theorem turns_history {ρ : Type} (env : Environment ρ) {client : WorkflowClient (Play ρ)}
    {σ : Service} (hclient : client.KeepsTo σ) (queue : Queue) (store : Store) (outside : ρ)
    (n : Nat) :
    let final := (((env.runner client).turns n).run (World.opening queue store outside)).2
    final.turn = n ∧ final.queue.pending = queue.pending.drop n ∧
      History queue.named? store n final.record final.store := by
  induction n with
  | zero => exact ⟨rfl, rfl, .opening⟩
  | succ n ih =>
    intro final
    obtain ⟨w, hw⟩ : ∃ w, w =
      (((env.runner client).turns n).run (World.opening queue store outside)).2 := ⟨_, rfl⟩
    rw [← hw] at ih
    obtain ⟨hturn, hpending, hhistory⟩ := ih
    obtain ⟨calls, t, hcalls, htells, htrace⟩ := runNext_calls env hclient w
    have hfinal : final = { ((env.runner client).runNext.run w).2 with
        turn := ((env.runner client).runNext.run w).2.turn + 1 } := by
      rw [hw]
      rfl
    obtain ⟨hrest, hstore, hsame, hrecord⟩ :
        final.queue.pending = w.queue.pending.drop 1 ∧ final.store = t ∧ final.turn = n + 1 ∧
          final.record = w.record ++ calls.map (Event.mk n) := by
      rw [hfinal, ← hturn]
      simpa [World.trace] using htrace
    refine ⟨hsame, ?_, ?_⟩
    · rw [hrest, hpending, List.drop_drop]
    · rw [hrecord, hstore]
      rcases hcalls with rfl | ⟨task, htask, rfl | ⟨request, hrequest, houtline⟩⟩
      · rw [List.map_nil, List.append_nil, ← (htells : w.store = t)]
        exact .pass hhistory
      · rw [List.map_nil, List.append_nil, ← (htells : w.store = t)]
        exact .pass hhistory
      · refine .work hhistory ?_ houtline htells
        rw [hpending, List.getElem?_drop] at htask
        simp only [Queue.named?, Nat.add_zero] at htask ⊢
        rw [htask]
        exact congrArg (Option.map StopRequest.deploymentId) hrequest

end Teardown
