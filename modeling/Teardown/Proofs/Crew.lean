import Mathlib.Tactic.Lemma
import Teardown.Proofs.StopJob.Outline

/-!
# Jobs that work at the same time

A crew is any number of stop jobs, for the same or for different deployments, that make their moves
in any order.  `Crew.run` lets them move by a schedule; a move is one of the moves of which an
execution of the job consists (`Procedure.run_succ`), it answers one question of one job, and the
calls of the `j`-th job are noted under the number `j`.

The invariant is `Consistent`: the calls of every job follow its own course, whatever the others do
in between, and the whole record tells how the tables went.  If a row is `stopping` after some job
has written it, then its last writer has committed nothing after its mark.  By its course this
writer is still at work, or it has ended without a terminal write, and there are only two ways to do
that: a write of `failed` that failed itself, and an interrupt, which no job handles.
-/

namespace Teardown

namespace Crew

open StopJob (Config State Question Answer Answers Answered Course)

/-! ### Crews at work -/

/-- A job of a crew. -/
structure Member where
  config : Config Seconds
  state : State Seconds

/-- What a job does next. -/
def Member.next (job : Member) :
    Move (Question Seconds) Answer (State Seconds) (Except Failure JobResult) :=
  StopJob.next job.config StopJob.name job.state

/-- The job has ended. -/
def Member.Over (job : Member) : Prop :=
  ∃ log result, job.next = .done log result

/-- The job has ended by a write of `failed` that failed itself. -/
def Member.Unreconciled (job : Member) (calls : List Call) : Prop :=
  ∃ log failure earlier error s, job.next = .done log (.error failure) ∧
    calls = earlier ++ [.write job.config.deploymentId .failed error s s (.error failure)]

/-- The job has ended by an interrupt, which one of its calls has raised. -/
def Member.Interrupted (job : Member) (calls : List Call) : Prop :=
  ∃ log failure, job.next = .done log (.error failure) ∧ failure.isInterrupt = true ∧
    ∃ call ∈ calls, call.failure? = some failure

/-- Jobs that have not made a move. -/
def opening (configs : List (Config Seconds)) : List Member :=
  configs.map fun config => ⟨config, .initial⟩

section Run

variable {ρ : Type} (env : Environment ρ) (client : WorkflowClient (Play ρ))

/-- Continues under another number. -/
def goTo (j : Nat) : Play ρ Unit := fun w =>
  ((), { w with turn := j })

/-- The next move of the `j`-th job. -/
def step (j : Nat) (crew : List Member) : Play ρ (List Member) :=
  match crew[j]? with
  | none => pure crew
  | some job => do
    goTo j
    let state ← Procedure.move (StopJob.answer (env.surroundings client))
      (env.surroundings client).write (StopJob.next job.config StopJob.name) job.state
    return crew.set j ⟨job.config, state⟩

/-- The moves of a schedule. -/
def run : List Nat → List Member → Play ρ (List Member)
  | [], crew => pure crew
  | j :: schedule, crew => do run schedule (← step env client j crew)

end Run

/-! ### The invariant -/

/-- The calls of every job follow its course, and the record tells how the tables went that were `s`
at the start. -/
structure Consistent (σ : Service) (s : Store) (crew : List Member) (v : Scene) : Prop where
  courses : ∀ j job, crew[j]? = some job →
    Course σ job.config job.state.phase (callsOf j v.record)
  members : ∀ e ∈ v.record, e.turn < crew.length
  told : Tells s (v.record.map Event.call) v.store

section Consistent

variable {σ : Service} {s t : Store} {crew : List Member} {v : Scene} {config : Config Seconds}
variable {state : State Seconds}

/-- Nobody has done anything yet. -/
lemma consistent_opening (configs : List (Config Seconds)) (queue : Queue) (store : Store) :
    Consistent σ store (opening configs) { queue, store } := by
  refine ⟨fun j job hjob => ?_, fun e he => ?_, rfl⟩
  · obtain ⟨config, _, rfl⟩ := List.mem_map.mp (List.mem_of_getElem? hjob)
    exact .reading
  · cases he

/-- An answered question of one job leaves the courses of all jobs intact. -/
lemma Consistent.answered {log : List Log.Entry} {q : Question Seconds}
    {resume : Answer q → State Seconds} {a : Answer q} {calls : List Call}
    (h : Consistent σ s (crew.set v.turn ⟨config, state⟩) v) (hmember : v.turn < crew.length)
    (hask : StopJob.next config StopJob.name state = .ask log q resume)
    (ha : Answers σ v.store q a calls t) :
    Consistent σ s (crew.set v.turn ⟨config, resume a⟩) (v.after calls t) := by
  refine ⟨fun j job hjob => ?_, fun e he => ?_, ?_⟩
  · rw [Scene.after_record]
    by_cases hj : j = v.turn
    · obtain rfl := hj
      rw [List.getElem?_set_self hmember] at hjob
      obtain rfl := Option.some.inj hjob
      rw [callsOf_append_self]
      exact (h.courses v.turn ⟨config, state⟩ (List.getElem?_set_self hmember)).step hask ha
    · rw [List.getElem?_set_ne (Ne.symm hj)] at hjob
      rw [callsOf_append_of_ne hj]
      exact h.courses j job ((List.getElem?_set_ne (Ne.symm hj)).trans hjob)
  · rw [List.length_set]
    rcases List.mem_append.mp he with hold | hnew
    · exact List.length_set ▸ h.members e hold
    · obtain ⟨call, _, rfl⟩ := List.mem_map.mp hnew
      exact hmember
  · rw [Scene.after_record, List.map_append, List.map_map]
    refine tells_append.mpr ⟨v.store, h.told, ?_⟩
    exact (List.map_id calls).symm ▸ ha.tells

end Consistent

section Invariant

variable {ρ : Type} (env : Environment ρ) {client : WorkflowClient (Play ρ)} {σ : Service}
variable {s : Store}

/-- A move keeps a crew consistent. -/
theorem step_consistent (hclient : client.KeepsTo σ) (j : Nat) {crew : List Member} {w : World ρ}
    (h : Consistent σ s crew w.toScene) :
    Consistent σ s ((step env client j crew).run w).1
      ((step env client j crew).run w).2.toScene := by
  unfold step
  cases hjob : crew[j]? with
  | none => exact h
  | some job =>
    have hmember : j < crew.length := (List.getElem?_eq_some_iff.mp hjob).1
    let Inv (state : State Seconds) (v : Scene) : Prop :=
      v.turn = j ∧ Consistent σ s (crew.set j ⟨job.config, state⟩) v
    have hkeep : ∀ {state v log q resume a v'}, Inv state v →
        StopJob.next job.config StopJob.name state = .ask log q resume →
        Answered σ v q a v' → Inv (resume a) v' := by
      rintro state v log q resume a v' ⟨rfl, hinv⟩ hask ⟨calls, t, ha, rfl⟩
      exact ⟨rfl, hinv.answered hmember hask ha⟩
    have hstart : Inv job.state { w.toScene with turn := j } := by
      have hset : crew.set j ⟨job.config, job.state⟩ = crew := by
        have hself : (⟨job.config, job.state⟩ : Member) = crew[j] :=
          (List.getElem?_eq_some_iff.mp hjob).2.symm
        rw [hself, List.set_getElem_self]
      refine ⟨rfl, ?_⟩
      rw [hset]
      exact ⟨h.courses, h.members, h.told⟩
    have hwrite : ∀ e (v : World ρ),
        (((env.surroundings client).write e).run v).2.toScene = v.toScene := fun _ _ => rfl
    exact (Procedure.move_invariant hwrite (StopJob.answered env hclient) hkeep
      (w := { w with turn := j }) hstart).2

/-- A schedule keeps a crew consistent. -/
theorem run_consistent (hclient : client.KeepsTo σ) (schedule : List Nat) {crew : List Member}
    {w : World ρ} (h : Consistent σ s crew w.toScene) :
    Consistent σ s ((run env client schedule crew).run w).1
      ((run env client schedule crew).run w).2.toScene := by
  induction schedule generalizing crew w with
  | nil => exact h
  | cons j schedule ih => exact ih (step_consistent env hclient j h)

end Invariant

/-! ### The last writer of a row -/

/-- No row is stranded in `stopping` by a crew: what holds in every state that it can reach. -/
structure Unstranded (crew : List Member) (record : List Event) (t : Store) : Prop where
  /-- If a row is `stopping` and some job has written it, then its latest write is the mark of the
  job that made it, and this job has committed nothing else.  It is still at work, or it has ended
  by a failed write of `failed`, or one of its calls has raised an interrupt; as long as calls raise
  no interrupts, the third case does not arise. -/
  latest : ∀ id row, t.row? id = some row → row.status = Status.stopping.text →
    (∃ c ∈ commits record, c.2.id = id) →
    ∃ past j w later job, commits record = past ++ (j, w) :: later ∧ w.id = id ∧
      (∀ c ∈ later, c.2.id ≠ id) ∧ w.status = .stopping ∧ crew[j]? = some job ∧
      (callsOf j record).filterMap Call.write? = [w] ∧
      (¬ job.Over ∨ job.Unreconciled (callsOf j record) ∨ job.Interrupted (callsOf j record))
  /-- When all jobs have ended, none of them by a failed write of `failed` and none of them by an
  interrupt, no row that some job has written is `stopping`. -/
  rest : (∀ job ∈ crew, job.Over) →
    (∀ (j : Nat) (job : Member), crew[j]? = some job → ¬ job.Unreconciled (callsOf j record)) →
    (∀ e ∈ record, ∀ failure, e.call.failure? = some failure → failure.isInterrupt = false) →
    ∀ id row, t.row? id = some row → (∃ c ∈ commits record, c.2.id = id) →
      row.status ≠ Status.stopping.text

section Unstranded

variable {σ : Service} {s : Store} {crew : List Member} {v : Scene}

/-- A job that has committed its mark and nothing else is at work, or has ended without a terminal
write. -/
lemma Member.of_writes {job : Member} {calls : List Call} {w : Write}
    (h : Course σ job.config job.state.phase calls)
    (hwrites : calls.filterMap Call.write? = [w]) :
    ¬ job.Over ∨ job.Unreconciled calls ∨ job.Interrupted calls := by
  obtain ⟨config, phase, timeline⟩ := job
  cases h with
  | reading | locating | marking | starting | naming | waiting | recording | reconciling =>
    refine .inl ?_
    rintro ⟨log, result, hdone⟩
    cases hdone
  | skipped found _ =>
    rw [filterMap_write?_idle found.idle] at hwrites
    cases hwrites
  | refused refused =>
    rw [filterMap_write?_idle refused.idle] at hwrites
    cases hwrites
  | stopped achieved _ =>
    obtain ⟨s, t, hmark⟩ := achieved.started.choose_spec.writes
    rw [List.filterMap_append, hmark] at hwrites
    cases hwrites
  | failed broken _ _ =>
    obtain ⟨s, t, hmark⟩ := broken.started.choose_spec.writes
    rw [List.filterMap_append, hmark] at hwrites
    cases hwrites
  | @interrupted cause _ broken interrupt =>
    exact .inr (.inr ⟨[], cause, rfl, interrupt, broken.interrupted interrupt⟩)
  | @unreconciled cause earlier s failure _ _ =>
    exact .inr (.inl ⟨[], failure, earlier, _, s, rfl, rfl⟩)

/-- The committed writes of a job name its own deployment, and those after its mark are terminal. -/
lemma Consistent.writes (h : Consistent σ s crew v) {j : Nat} {w : Write}
    (hw : (j, w) ∈ commits v.record) :
    ∃ job mark last, crew[j]? = some job ∧
      Course σ job.config job.state.phase (callsOf j v.record) ∧
      (callsOf j v.record).filterMap Call.write? = mark :: last ∧
      (∀ w ∈ mark :: last, w.id = job.config.deploymentId) ∧
      ∀ w ∈ last, w.status ≠ .stopping := by
  obtain ⟨e, he, hwrite⟩ := List.mem_filterMap.mp hw
  obtain ⟨w', hcall, heq⟩ := Option.map_eq_some_iff.mp hwrite
  obtain rfl : e.turn = j := congrArg Prod.fst heq
  have hjob := List.getElem?_eq_getElem (h.members e he)
  have hcourse := h.courses e.turn _ hjob
  rcases hcourse.outline.writes with hnone | ⟨s, t, last, hwrites, hlast⟩
  · have hmem : w ∈ (callsOf e.turn v.record).filterMap Call.write? := by
      rw [writes_callsOf]
      exact List.mem_map.mpr ⟨(e.turn, w), List.mem_filter.mpr ⟨hw, by simp⟩, rfl⟩
    rw [hnone] at hmem
    cases hmem
  · refine ⟨_, _, last, hjob, hcourse, hwrites, fun w hw => ?_, fun w hw hstatus => ?_⟩
    · rcases List.mem_cons.mp hw with rfl | hmem
      · rfl
      · exact (hlast w hmem).1
    · have hterminal := (hlast w hw).2
      rw [hstatus] at hterminal
      cases hterminal

/-- If the latest write of a row is a mark, then it is the only write of the job that made it. -/
lemma Consistent.writes_eq_mark (h : Consistent σ s crew v) {past later : List (Nat × Write)}
    {j : Nat} {w : Write} (hsplit : commits v.record = past ++ (j, w) :: later)
    (hlater : ∀ c ∈ later, c.2.id ≠ w.id) (hstatus : w.status = .stopping) :
    ∃ job, crew[j]? = some job ∧ Course σ job.config job.state.phase (callsOf j v.record) ∧
      (callsOf j v.record).filterMap Call.write? = [w] := by
  have hmem : (j, w) ∈ commits v.record := by
    rw [hsplit]
    simp
  obtain ⟨job, mark, last, hjob, hcourse, hwrites, hid, hterminal⟩ := h.writes hmem
  refine ⟨job, hjob, hcourse, ?_⟩
  have hcons : ((j, w) :: later).filter (·.1 == j) = (j, w) :: later.filter (·.1 == j) :=
    List.filter_cons_of_pos (beq_self_eq_true j)
  have hparts : mark :: last = (past.filter (·.1 == j)).map Prod.snd ++
      w :: (later.filter (·.1 == j)).map Prod.snd := by
    rw [← hwrites, writes_callsOf, hsplit, List.filter_append, List.map_append, hcons,
      List.map_cons]
  -- The job writes one row only, so it has written nothing later.
  have hnone : (later.filter (·.1 == j)).map Prod.snd = [] := by
    refine List.eq_nil_iff_forall_not_mem.mpr fun w' hw' => ?_
    have hw : w.id = job.config.deploymentId := hid w (by rw [hparts]; simp)
    have hw'id : w'.id = job.config.deploymentId := hid w' (by rw [hparts]; simp [hw'])
    obtain ⟨c, hc, rfl⟩ := List.mem_map.mp hw'
    exact hlater c (List.mem_filter.mp hc).1 (hw'id.trans hw.symm)
  rw [hnone] at hparts
  -- It has written nothing before either, since a write after the mark is terminal.
  cases hpast : (past.filter (·.1 == j)).map Prod.snd with
  | nil => rw [hwrites, hparts, hpast, List.nil_append]
  | cons first rest =>
    rw [hpast] at hparts
    obtain ⟨_, rfl⟩ := List.cons_eq_cons.mp hparts
    exact absurd hstatus (hterminal w (by simp))

/-- A consistent crew strands no row. -/
theorem Consistent.latest (h : Consistent σ s crew v) {id : Int} {row : Store.DeploymentRow}
    (hrow : v.store.row? id = some row) (hstopping : row.status = Status.stopping.text)
    (hwritten : ∃ c ∈ commits v.record, c.2.id = id) :
    ∃ past j w later job, commits v.record = past ++ (j, w) :: later ∧ w.id = id ∧
      (∀ c ∈ later, c.2.id ≠ id) ∧ w.status = .stopping ∧ crew[j]? = some job ∧
      (callsOf j v.record).filterMap Call.write? = [w] ∧
      (¬ job.Over ∨ job.Unreconciled (callsOf j v.record) ∨
        job.Interrupted (callsOf j v.record)) := by
  obtain ⟨past, ⟨j, w⟩, later, hsplit, rfl, hlater⟩ := exists_last hwritten
  have hwrites : (v.record.map Event.call).filterMap Call.write? =
      past.map Prod.snd ++ w :: later.map Prod.snd := by
    rw [← commits_map_snd, hsplit, List.map_append]
    rfl
  have hlast : ∀ w' ∈ later.map Prod.snd, w'.id ≠ w.id := by
    intro w' hw'
    obtain ⟨c, hc, rfl⟩ := List.mem_map.mp hw'
    exact hlater c hc
  obtain ⟨row', hrow', hstatus'⟩ := h.told.row?_of_last hwrites hlast
  obtain rfl := Option.some.inj (hrow.symm.trans hrow')
  have hstatus : w.status = .stopping := Status.eq_of_text_eq (hstatus'.symm.trans hstopping)
  obtain ⟨job, hjob, hcourse, hown⟩ := h.writes_eq_mark hsplit hlater hstatus
  exact ⟨past, j, w, later, job, hsplit, rfl, hlater, hstatus, hjob, hown,
    Member.of_writes hcourse hown⟩

/-- A consistent crew strands no row, neither while it works nor when it has ended. -/
theorem Consistent.unstranded (h : Consistent σ s crew v) : Unstranded crew v.record v.store := by
  refine ⟨fun id row hrow hstopping hwritten => h.latest hrow hstopping hwritten, ?_⟩
  intro hover hreconciled huninterrupted id row hrow hwritten hstopping
  obtain ⟨_, j, w, _, job, _, _, _, _, hjob, _, hend⟩ := h.latest hrow hstopping hwritten
  rcases hend with hworks | hunreconciled | ⟨_, failure, _, hinterrupt, call, hcall, hfailure⟩
  · exact hworks (hover job (List.mem_of_getElem? hjob))
  · exact hreconciled j job hjob hunreconciled
  · obtain ⟨e, he, rfl⟩ := List.mem_map.mp hcall
    have hnot := huninterrupted e (List.mem_filter.mp he).1 failure hfailure
    rw [hinterrupt] at hnot
    cases hnot

end Unstranded

/-! ### The theorem -/

/-- Whatever the tables, the remote service and the failures of the storage are, and in whatever
order the jobs make their moves, no row is stranded in `stopping`. -/
theorem run_unstranded {ρ : Type} (env : Environment ρ) (client : WorkflowClient (StateM ρ))
    (configs : List (Config Seconds)) (queue : Queue) (store : Store) (outside : ρ)
    (schedule : List Nat) :
    let final := (run env client.remote schedule (opening configs)).run
      (World.opening queue store outside)
    Unstranded final.1 final.2.record final.2.store := by
  intro final
  have hopening : Consistent .silent store (opening configs)
      (World.opening queue store outside).toScene := consistent_opening configs queue store
  exact (run_consistent env client.remote_keepsTo schedule hopening).unstranded

end Crew

end Teardown
