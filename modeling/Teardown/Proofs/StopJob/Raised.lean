import Mathlib.Logic.Relation
import Mathlib.Tactic.Lemma
import Teardown.Proofs.Github.Transcript
import Teardown.Proofs.StopJob.Outline

/-!
# Jobs that raise

A job raises for one of two reasons.  Either it is `Refused`: one of its two reads or the writing
of the mark has failed, and nothing has happened.  Or it is `Unreconciled`: it has failed after the
mark, and then the writing of `failed` has failed too.  `execute_raised_iff` says that these are all
the reasons, and what is left behind in each case.

The job need not be alone: before each of its operations on the tables, others may do to them
whatever they like.  What the job leaves behind is therefore said up to what others have `Made` of
it.  The invariant of the proof, `Tended`, speaks of the calls and the tables only, so that it is
kept by every answer, whatever the phase.
-/

namespace Teardown

/-! ### Others at work on the tables -/

/-- What others do to the tables before the next operation of a job. -/
abbrev Outsiders (ρ : Type) := Store → StateM ρ Store

namespace Outsiders

variable {ρ : Type} (others : Outsiders ρ)

/-- The others do what they do. -/
def act : Play ρ Unit := fun w =>
  ((), { w with
    store := ((others w.store).run w.outside).1, outside := ((others w.store).run w.outside).2 })

/-- Tables that others make of given tables, in any number of steps. -/
def Made : Store → Store → Prop :=
  Relation.ReflTransGen fun s t => ∃ o, ((others s).run o).1 = t

/-- Others that never do anything. -/
def Idle : Prop :=
  ∀ s o, ((others s).run o).1 = s

/-- Others that keep away from the row of a deployment, unless they delete it. -/
def Spare (id : Int) : Prop :=
  ∀ s o row, (((others s).run o).1).row? id = some row → s.row? id = some row

variable {others}

/-- Others that never do anything have made nothing of the tables. -/
lemma Made.eq_of_idle (idle : others.Idle) {s t : Store}
    (h : others.Made s t) : t = s := by
  induction h with
  | refl => rfl
  | tail _ hstep ih =>
    obtain ⟨o, rfl⟩ := hstep
    rw [idle, ih]

/-- A row that others have spared, and that is still there, is as it was. -/
lemma Spare.row? {id : Int} (spare : others.Spare id) {s t : Store} (h : others.Made s t)
    {row : Store.DeploymentRow} (hrow : t.row? id = some row) : s.row? id = some row := by
  induction h with
  | refl => exact hrow
  | tail _ hstep ih =>
    obtain ⟨o, rfl⟩ := hstep
    exact ih (spare _ o row hrow)

end Outsiders

/-- A repository whose tables others may have changed before each operation. -/
def Repository.contested {ρ : Type} (repository : Repository (Play ρ)) (others : Outsiders ρ) :
    Repository (Play ρ) where
  getDeployment id := do others.act; repository.getDeployment id
  getInstance id := do others.act; repository.getInstance id
  setStatusAndError id status error := do
    others.act
    repository.setStatusAndError id status error

namespace Environment

variable {ρ : Type} (env : Environment ρ) (client : WorkflowClient (StateM ρ))

/-- The surroundings of a job that shares its tables with others. -/
def contested (others : Outsiders ρ) : StopJob.Surroundings (Play ρ) Seconds :=
  { env.surroundings client.remote with repository := env.repository.contested others }

/-- Neither the storage nor the client is ever interrupted. -/
structure Uninterrupted : Prop where
  fault : ∀ o failure, (env.fault.run o).1 = some failure → failure.isInterrupt = false
  source : ∀ o failure, (client.source.run o).1 = .error failure → failure.isInterrupt = false
  start : ∀ inst o failure, ((client.start inst).run o).1 = .error failure →
    failure.isInterrupt = false
  poll : ∀ run o failure, ((client.poll run).run o).1 = .error failure →
    failure.isInterrupt = false

variable {env client}

/-- A guarded operation that fails was not interrupted, if it is not interrupted by itself. -/
lemma Uninterrupted.guarded (h : env.Uninterrupted client) {α : Type}
    {operation : Play ρ (Except Failure α)}
    (hown : ∀ w failure, (operation.run w).1 = .error failure → failure.isInterrupt = false)
    (w : World ρ) (failure : Failure)
    (hfailure : ((env.guarded operation).run w).1 = .error failure) :
    failure.isInterrupt = false := by
  unfold Environment.guarded at hfailure
  rw [Play.run_bind] at hfailure
  cases hfault : ((Play.outside env.fault).run w).1 with
  | some failure' =>
    rw [hfault] at hfailure
    cases hfailure
    exact h.fault w.outside failure hfault
  | none =>
    rw [hfault] at hfailure
    exact hown _ failure hfailure

end Environment

/-- A look at the tables is not interrupted. -/
lemma isInterrupt_of_inspect {ρ α : Type} (question : Store → Except Store.Error α) (w : World ρ)
    (failure : Failure)
    (h : ((Store.inspect question : Play ρ (Except Failure α)).run w).1 = .error failure) :
    failure.isInterrupt = false := by
  have hseen : (question w.store).mapError Failure.store = .error failure := h
  cases hresult : question w.store with
  | ok a =>
    rw [hresult] at hseen
    cases hseen
  | error e =>
    rw [hresult] at hseen
    cases hseen
    rfl

namespace StopJob

/-! ### What a job that raises has done -/

/-- The calls of a job that failed after its deployment was marked, and then could not record it. -/
inductive Unreconciled (config : Config Seconds) : Failure → List Call → Prop where
  | intro {cause calls s failure} (broken : Broken .silent config cause calls) :
      Unreconciled config failure
        (calls ++
          [.write config.deploymentId .failed (some (failureText cause)) s s (.error failure)])

/-- The failure of a call that a job does not survive: a read, or a write that is not `stopped`. -/
def fatal? : Call → Option Failure
  | .deployment _ _ (.error failure) => some failure
  | .location _ _ (.error failure) => some failure
  | .write _ .stopping _ _ _ (.error failure) => some failure
  | .write _ .failed _ _ _ (.error failure) => some failure
  | _ => none

section Shapes

variable {config : Config Seconds} {calls : List Call} {failure : Failure}

/-- A job that was refused has ended with a fatal call. -/
lemma Refused.fatal (h : Refused config failure calls) :
    calls.getLast?.bind fatal? = some failure := by
  cases h <;> simp [fatal?]

/-- A job that could not record its failure has ended with a fatal call. -/
lemma Unreconciled.fatal (h : Unreconciled config failure calls) :
    calls.getLast?.bind fatal? = some failure := by
  cases h
  simp [fatal?]

/-- After a fatal call a job raises the failure of that call. -/
lemma Course.phase_of_fatal {phase : Phase Seconds} (h : Course .silent config phase calls)
    (hfatal : calls.getLast?.bind fatal? = some failure) : phase = .raised failure := by
  cases h with
  | reading => cases hfatal
  | locating found _ | skipped found _ =>
    cases found
    simp [fatal?] at hfatal
  | marking located =>
    cases located
    simp [fatal?] at hfatal
  | starting marked =>
    cases marked
    simp [fatal?] at hfatal
  | naming begun =>
    cases begun
    simp [fatal?] at hfatal
  | waiting watched =>
    cases watched <;> simp [fatal?] at hfatal
  | recording achieved =>
    cases achieved
    simp [fatal?] at hfatal
  | reconciling broken _ | interrupted broken _ =>
    cases broken <;> simp [fatal?] at hfatal
  | stopped _ _ | failed _ _ _ => simp [fatal?] at hfatal
  | refused refused => rw [Option.some.inj (refused.fatal.symm.trans hfatal)]
  | unreconciled _ _ =>
    simp only [List.getLast?_concat, Option.bind_some, fatal?, Option.some.injEq] at hfatal
    rw [hfatal]

/-- A job that raises, and that was not interrupted, was refused or could not record its failure. -/
lemma Course.of_raised (h : Course .silent config (.raised failure) calls)
    (handled : ∀ call ∈ calls, ∀ cause, call.failure? = some cause → cause.isInterrupt = false) :
    Refused config failure calls ∨ Unreconciled config failure calls := by
  cases h with
  | refused refused => exact .inl refused
  | interrupted broken interrupt =>
    obtain ⟨call, hcall, hcause⟩ := broken.interrupted interrupt
    rw [handled call hcall failure hcause] at interrupt
    cases interrupt
  | unreconciled broken _ => exact .inr (.intro broken)

/-- A job that was refused has not called the service. -/
lemma Refused.not_remote (h : Refused config failure calls) :
    ∀ call ∈ calls, call.isRemote = false := by
  have hfound : ∀ {d earlier}, Found config d earlier →
      ∀ call ∈ earlier, call.isRemote = false := by
    rintro d earlier ⟨_⟩
    simp [Call.isRemote]
  cases h with
  | deployment => simp [Call.isRemote]
  | location found _ => exact List.forall_mem_append.mpr ⟨hfound found, by simp [Call.isRemote]⟩
  | mark located =>
    obtain ⟨found, _, _⟩ := located
    refine List.forall_mem_append.mpr ⟨List.forall_mem_append.mpr ⟨hfound found, ?_⟩, ?_⟩
    · simp [Call.isRemote]
    · simp [Call.isRemote]

/-- A job that could not record its failure has committed the mark and nothing else. -/
lemma Unreconciled.writes (h : Unreconciled config failure calls) :
    ∃ s t, calls.filterMap Call.write? = [⟨config.deploymentId, .stopping, none, s, t⟩] := by
  obtain ⟨broken⟩ := h
  obtain ⟨inst, started⟩ := broken.started
  obtain ⟨s, t, hwrites⟩ := started.writes
  refine ⟨s, t, ?_⟩
  rw [List.filterMap_append, hwrites]
  rfl

end Shapes

/-! ### Answers among others -/

section Answers

variable {ρ : Type} {env : Environment ρ} {client : WorkflowClient (StateM ρ)}
variable {config : Config Seconds} {others : Outsiders ρ}

/-- None of the calls was interrupted. -/
def Handled (calls : List Call) : Prop :=
  ∀ call ∈ calls, ∀ cause, call.failure? = some cause → cause.isInterrupt = false

/-- What may be answered to a question among others: they go first, and then the question is
answered, without an interrupt. -/
def Contested (others : Outsiders ρ) (v : Scene) (q : Question Seconds) (a : Answer q)
    (v' : Scene) : Prop :=
  ∃ s calls t, others.Made v.store s ∧ Answers .silent s q a calls t ∧ Handled calls ∧
    v' = v.after calls t

/-- The failure of a result that is none. -/
def errorOf {α : Type} : Except Failure α → Option Failure
  | .ok _ => none
  | .error failure => some failure

lemma eq_error_of_errorOf {α : Type} {x : Except Failure α} {failure : Failure}
    (h : errorOf x = some failure) : x = .error failure := by
  cases x with
  | ok a => cases h
  | error e => rw [Option.some.inj h]

/-- The failure that an answer reports, if it reports one. -/
def failureOf : (q : Question Seconds) → Answer q → Option Failure
  | .deployment _, result => errorOf result
  | .location _, result => errorOf result
  | .write _ _ _, result => errorOf result
  | .start _, result => errorOf result
  | .source, result => errorOf result
  | .wait (.poll _), look => errorOf look.result
  | .wait _, _ => none

/-- A call has failed as its answer reports. -/
lemma Answers.failure? {s t : Store} {q : Question Seconds} {a : Answer q} {calls : List Call}
    (h : Answers .silent s q a calls t) : ∀ call ∈ calls, call.failure? = failureOf q a := by
  match q with
  | .deployment _ | .location _ =>
    obtain ⟨_, rfl, _⟩ := h
    cases a <;> simp [Call.failure?, failureOf, errorOf]
  | .write _ _ _ =>
    obtain ⟨rfl, _⟩ := h
    cases a <;> simp [Call.failure?, failureOf, errorOf]
  | .start _ =>
    obtain ⟨_, _, rfl, rfl⟩ := h
    cases a <;> simp [Call.failure?, failureOf, errorOf]
  | .source =>
    obtain ⟨_, rfl⟩ := h
    cases a <;> simp [Call.failure?, failureOf, errorOf]
  | .wait .clock | .wait (.pause _) =>
    obtain ⟨_, rfl⟩ := h
    simp
  | .wait (.poll _) =>
    obtain ⟨_, _, rfl, rfl⟩ := h
    obtain ⟨result, now⟩ := a
    cases result <;> simp [Call.failure?, failureOf, errorOf]

/-- Where nothing is interrupted, no answer is an interrupt. -/
lemma failureOf_answer (h : env.Uninterrupted client) (q : Question Seconds) (w : World ρ)
    {failure : Failure}
    (hfailure : failureOf q ((answer (env.surroundings client.remote) q).run w).1 = some failure) :
    failure.isInterrupt = false := by
  match q with
  | .deployment id =>
    exact h.guarded (isInterrupt_of_inspect _) w failure (eq_error_of_errorOf hfailure)
  | .location id =>
    exact h.guarded (isInterrupt_of_inspect _) w failure (eq_error_of_errorOf hfailure)
  | .write id status error =>
    refine h.guarded (fun v cause hcause => ?_) w failure (eq_error_of_errorOf hfailure)
    have hwritten : ((v.store.setStatusAndError (env.stamp v.outside).1 id status error).1.mapError
        Failure.store).map (fun _ => ()) = .error cause := hcause
    cases hresult : (v.store.setStatusAndError (env.stamp v.outside).1 id status error).1 with
    | ok d =>
      rw [hresult] at hwritten
      cases hwritten
    | error e =>
      rw [hresult] at hwritten
      cases hwritten
      rfl
  | .start inst => exact h.start inst w.outside failure (eq_error_of_errorOf hfailure)
  | .source => exact h.source w.outside failure (eq_error_of_errorOf hfailure)
  | .wait .clock | .wait (.pause _) => cases hfailure
  | .wait (.poll run) => exact h.poll run w.outside failure (eq_error_of_errorOf hfailure)

/-- Every answer among others is one that `Contested` allows. -/
lemma contested_answer (h : env.Uninterrupted client) (others : Outsiders ρ)
    (q : Question Seconds) (w : World ρ) :
    Contested others w.toScene q ((answer (env.contested client others) q).run w).1
      ((answer (env.contested client others) q).run w).2.toScene := by
  -- An answer of the job's own surroundings, in tables that the others have made.
  have hanswer : ∀ v : World ρ, others.Made w.store v.store →
      (∀ calls t, v.toScene.after calls t = w.toScene.after calls t) →
      Contested others w.toScene q ((answer (env.surroundings client.remote) q).run v).1
        ((answer (env.surroundings client.remote) q).run v).2.toScene := by
    intro v hmade hscene
    obtain ⟨calls, t, ha, hafter⟩ := answered env client.remote_keepsTo q v
    refine ⟨v.store, calls, t, hmade, ha, fun call hcall cause hcause => ?_, ?_⟩
    · rw [ha.failure? call hcall] at hcause
      exact failureOf_answer h q v hcause
    · rw [hafter, hscene]
  match q with
  | .deployment _ | .location _ | .write _ _ _ =>
    exact hanswer (others.act.run w).2 (.single ⟨w.outside, rfl⟩) fun _ _ => rfl
  | .start _ | .source | .wait .clock | .wait (.poll _) | .wait (.pause _) =>
    exact hanswer w .refl fun _ _ => rfl

end Answers

/-! ### What is left behind -/

section Tended

variable {ρ : Type} {others : Outsiders ρ} {config : Config Seconds}

/-- How the tables stand when a job has made the given calls among others: without a committed write
they are what the others have made of them, and after the mark a spared row is as it was marked. -/
structure Tended (others : Outsiders ρ) (config : Config Seconds) (store : Store)
    (calls : List Call) (t : Store) : Prop where
  handled : Handled calls
  made : calls.filterMap Call.write? = [] → others.Made store t
  marked : others.Spare config.deploymentId →
    ∀ s u, calls.filterMap Call.write? = [⟨config.deploymentId, .stopping, none, s, u⟩] →
      ∀ row, t.row? config.deploymentId = some row →
        row.status = Status.stopping.text ∧ row.error = none

lemma Tended.start {store : Store} : Tended others config store [] store where
  handled _ hcall := nomatch hcall
  made _ := .refl
  marked _ _ _ hone := nomatch hone

/-- Every answered question leaves the tables tended. -/
lemma Tended.answer {store s t u : Store} {calls more : List Call} {q : Question Seconds}
    {a : Answer q} (h : Tended others config store calls t) (hmade : others.Made t s)
    (ha : Answers .silent s q a more u) (handled : Handled more) :
    Tended others config store (calls ++ more) u := by
  have htells : Tells s more u := ha.tells
  refine ⟨List.forall_mem_append.mpr ⟨h.handled, handled⟩, fun hnone => ?_,
    fun spare v v' hone row hrow => ?_⟩
  · rw [List.filterMap_append] at hnone
    obtain ⟨hcalls, hmore⟩ := List.append_eq_nil_iff.mp hnone
    obtain rfl := htells.eq_of_no_write hmore
    exact (h.made hcalls).trans hmade
  · rw [List.filterMap_append] at hone
    rcases List.append_eq_singleton_iff.mp hone with ⟨hcalls, hmore⟩ | ⟨hcalls, hmore⟩
    · -- The answer is the mark.
      obtain ⟨rfl, rfl, committed⟩ := htells.of_one_write hmore
      obtain ⟨_, _, _, hmarked⟩ := committed.rows
      obtain rfl := Option.some.inj (hmarked.symm.trans hrow)
      exact ⟨rfl, rfl⟩
    · -- The mark is older than the answer, and the others have spared it.
      obtain rfl := htells.eq_of_no_write hmore
      exact h.marked spare v v' hcalls row (spare.row? hmade hrow)

end Tended

/-! ### The theorem -/

/-- Only a phase that raises ends with a failure. -/
lemma next_eq_error_iff (config : Config Seconds) (called : String) (s : State Seconds)
    (failure : Failure) :
    (∃ log, next config called s = .done log (.error failure)) ↔ s.phase = .raised failure := by
  obtain ⟨phase, timeline⟩ := s
  constructor
  · rintro ⟨log, h⟩
    cases phase <;> cases h
    rfl
  · intro h
    cases h
    exact ⟨[], rfl⟩

/-- The execution of a job among others, for a number of moves. -/
def shared {ρ : Type} (env : Environment ρ) (client : WorkflowClient (StateM ρ))
    (others : Outsiders ρ) (config : Config Seconds) (queue : Queue) (store : Store) (outside : ρ)
    (moves : Nat) : JobEnd × World ρ :=
  (execute { env.contested client others with horizon := moves } config name).run
    (World.opening queue store outside)

section Shared

variable {ρ : Type} (env : Environment ρ) (client : WorkflowClient (StateM ρ))
variable (others : Outsiders ρ) (config : Config Seconds)
variable (queue : Queue) (store : Store) (outside : ρ)

/-- The state to which the moves of a job lead. -/
def reached (moves : Nat) : State Seconds × World ρ :=
  (Procedure.moves (answer (env.contested client others)) (env.contested client others).write
    (next config name) moves State.initial).run (World.opening queue store outside)

/-- An execution is a run in the surroundings, whatever their horizon is. -/
lemma shared_eq (moves : Nat) :
    shared env client others config queue store outside moves =
      (endOf <$> Procedure.run (answer (env.contested client others))
        (env.contested client others).write (next config name) moves State.initial).run
        (World.opening queue store outside) := by
  have hname : Text.strip name = name := by decide
  have hanswer : answer { env.contested client others with horizon := moves } =
      answer (env.contested client others) := by
    funext q
    cases q <;> rfl
  unfold shared
  rw [execute_of_name _ config hname, hname, hanswer]

/-- The execution shows what its moves show. -/
lemma shared_scene (moves : Nat) :
    (shared env client others config queue store outside moves).2.toScene =
      (reached env client others config queue store outside moves).2.toScene := by
  rw [shared_eq]
  exact Procedure.view_run (fun _ _ => rfl) moves State.initial _

/-- The execution raises a failure if all moves but the last lead to the phase that does so. -/
lemma shared_raised_iff (moves : Nat) (failure : Failure) :
    (shared env client others config queue store outside (moves + 1)).1 = .raised failure ↔
      (reached env client others config queue store outside moves).1.phase = .raised failure := by
  have hrun : ((Procedure.run (answer (env.contested client others))
      (env.contested client others).write (next config name) (moves + 1) State.initial).run
        (World.opening queue store outside)).1 = some (.error failure) ↔
      (reached env client others config queue store outside moves).1.phase = .raised failure := by
    rw [Procedure.run_eq_some_iff]
    exact next_eq_error_iff config name _ failure
  rw [shared_eq]
  exact ⟨fun h => hrun.mp (eq_of_endOf_eq h), fun h => congrArg endOf (hrun.mpr h)⟩

/-- The moves of a job keep to its course, and tend the tables. -/
lemma reached_tended (uninterrupted : env.Uninterrupted client) (moves : Nat) :
    ∃ calls t, Course .silent config
        (reached env client others config queue store outside moves).1.phase calls ∧
      Tended others config store calls t ∧
      (reached env client others config queue store outside moves).2.toScene =
        (World.opening queue store outside).toScene.after calls t := by
  let start := (World.opening queue store outside).toScene
  let Inv (s : State Seconds) (v : Scene) : Prop := ∃ calls t,
    Course .silent config s.phase calls ∧ Tended others config store calls t ∧
      v = start.after calls t
  have hstart : Inv State.initial start :=
    ⟨[], store, .reading, .start, start.after_nil.symm⟩
  have hkeep : ∀ {s v log q resume a v'}, Inv s v → next config name s = .ask log q resume →
      Contested others v q a v' → Inv (resume a) v' := by
    rintro s v log q resume a v' ⟨calls, t, hcourse, tended, rfl⟩ hask
      ⟨u, more, t', hmade, ha, handled, rfl⟩
    exact ⟨calls ++ more, t', hcourse.step hask ha, tended.answer hmade ha handled,
      start.after_after calls more t t'⟩
  exact Procedure.moves_invariant (fun _ _ => rfl)
    (contested_answer uninterrupted others) hkeep moves hstart

end Shared

/-- Where nothing is interrupted, a job raises a failure if and only if it was refused with this
failure, or it failed after its mark and then writing `failed` has failed with this failure.  A job
that was refused has not called the service and has changed nothing; after the other failure, the
row is still `stopping`, without an error text, if others have left it alone. -/
theorem execute_raised_iff {ρ : Type} (env : Environment ρ) (client : WorkflowClient (StateM ρ))
    (others : Outsiders ρ) (config : Config Seconds) (queue : Queue) (store : Store) (outside : ρ)
    (uninterrupted : env.Uninterrupted client) (moves : Nat) (failure : Failure) :
    let calls := (shared env client others config queue store outside moves).2.record.map Event.call
    let final := (shared env client others config queue store outside moves).2.store
    ((shared env client others config queue store outside (moves + 1)).1 = .raised failure ↔
      Refused config failure calls ∨ Unreconciled config failure calls) ∧
    (Refused config failure calls →
      (∀ call ∈ calls, call.isRemote = false) ∧ calls.filterMap Call.write? = [] ∧
        others.Made store final ∧ (others.Idle → final = store)) ∧
    (Unreconciled config failure calls → others.Spare config.deploymentId →
      ∀ row, final.row? config.deploymentId = some row →
        row.status = Status.stopping.text ∧ row.error = none) := by
  intro calls final
  obtain ⟨made, t, hcourse, tended, hscene⟩ :=
    reached_tended env client others config queue store outside uninterrupted moves
  rw [← shared_scene] at hscene
  have hcalls : calls = made := by
    have hrecord : (shared env client others config queue store outside moves).2.record =
        made.map (Event.mk 0) := congrArg Scene.record hscene
    have hcall : (Event.call ∘ Event.mk 0) = id := rfl
    simp only [calls, hrecord, List.map_map, hcall, List.map_id]
  have hfinal : final = t := congrArg Scene.store hscene
  rw [hcalls, hfinal]
  refine ⟨?_, fun refused => ?_, fun unreconciled spare row hrow => ?_⟩
  · rw [shared_raised_iff]
    constructor
    · intro hraised
      rw [hraised] at hcourse
      exact hcourse.of_raised tended.handled
    · rintro (refused | unreconciled)
      · exact hcourse.phase_of_fatal refused.fatal
      · exact hcourse.phase_of_fatal unreconciled.fatal
  · have hnone := filterMap_write?_idle refused.idle
    exact ⟨refused.not_remote, hnone, tended.made hnone, (tended.made hnone).eq_of_idle⟩
  · obtain ⟨s, u, hone⟩ := unreconciled.writes
    exact tended.marked spare s u hone row hrow

/-! ### A failure that cannot be recorded -/

/-- An environment in which no time passes, and whose fourth operation on the tables fails. -/
def fourthFails : Environment Nat where
  fault k := (if k = 3 then some (.named "OperationalError" "disk full") else none, k + 1)
  stamp := pure "2020-01-02 03:04:06"
  clock := ⟨pure (.whole 0), fun _ => pure ()⟩
  newId := pure ""
  write _ := pure ()
  horizon := 20

/-- A service that starts nothing. -/
def unwilling : WorkflowClient (StateM Nat) where
  source := pure (.ok "unwilling")
  start _ := pure (.error (.named "RuntimeError" "no quota"))
  poll _ := pure (.ok .pending)

/-- Others who add a deployment each time. -/
def adding : Outsiders Nat := fun s =>
  pure { s with deployments := s.deployments.map (· ++ [⟨2, 1, "running", none, "", ""⟩]) }

/-- The start fails, and so does the writing of `failed`. -/
def doublyFailing (moves : Nat) : JobEnd × World Nat :=
  shared fourthFails unwilling adding ⟨1, ⟨.whole 10, .whole 1⟩⟩ { history := 1 } Github.oneRunning 0
    moves

/-- The job raises the failure of the write, and the row is still `stopping`. -/
theorem doublyFailing_raised :
    (doublyFailing 6).1 = .raised (.named "OperationalError" "disk full") ∧
      Unreconciled ⟨1, ⟨.whole 10, .whole 1⟩⟩ (.named "OperationalError" "disk full")
        ((doublyFailing 5).2.record.map Event.call) ∧
      ∀ row, (doublyFailing 5).2.store.row? 1 = some row →
        row.status = Status.stopping.text ∧ row.error = none := by
  have huninterrupted : fourthFails.Uninterrupted unwilling := by
    refine ⟨fun k failure hfault => ?_, ?_, ?_, ?_⟩
    · have hone : (if k = 3 then some (Failure.named "OperationalError" "disk full") else none) =
          some failure := hfault
      split at hone
      · cases hone
        rfl
      · cases hone
    · rintro _ _ ⟨_⟩
    · rintro _ _ _ ⟨_⟩
      rfl
    · rintro _ _ _ ⟨_⟩
  have hspare : adding.Spare 1 := by
    intro s o row hrow
    have hadded : ((s.deployments.map (· ++ [⟨2, 1, "running", none, "", ""⟩])).getD []).find?
        (·.id == 1) = some row := hrow
    unfold Store.row?
    cases hrows : s.deployments with
    | none =>
      rw [hrows] at hadded
      exact hadded
    | some rows =>
      rw [hrows] at hadded
      simpa using hadded
  have hraises : (outcomeOf (doublyFailing 6).1).any (fun outcome => match outcome with
      | .ok _ => false
      | .error failure => failure == .named "OperationalError" "disk full") = true := by
    decide +kernel
  obtain ⟨outcome, houtcome, hfailure⟩ := (Option.any_eq_true ..).mp hraises
  have hraised : (doublyFailing 6).1 = .raised (.named "OperationalError" "disk full") := by
    cases outcome with
    | ok _ => cases hfailure
    | error failure =>
      rw [eq_of_outcomeOf houtcome, beq_iff_eq.mp hfailure]
      rfl
  have hremote : ((doublyFailing 5).2.record.map Event.call).any Call.isRemote = true := by
    decide +kernel
  unfold doublyFailing at hraised hremote ⊢
  obtain ⟨hiff, hrefused, hunreconciled⟩ :=
    execute_raised_iff fourthFails unwilling adding ⟨1, ⟨.whole 10, .whole 1⟩⟩ { history := 1 }
      Github.oneRunning 0 huninterrupted 5 (.named "OperationalError" "disk full")
  obtain refused | unreconciled := hiff.mp hraised
  · obtain ⟨call, hcall, hcalled⟩ := List.any_eq_true.mp hremote
    rw [(hrefused refused).1 call hcall] at hcalled
    cases hcalled
  · exact ⟨hraised, unreconciled, hunreconciled unreconciled hspare⟩

end StopJob

end Teardown
