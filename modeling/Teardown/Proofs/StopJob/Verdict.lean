import Mathlib.Tactic.ByContra
import Mathlib.Tactic.Lemma
import Teardown.Proofs.Github.Transcript
import Teardown.Proofs.LifeCycle
import Teardown.Proofs.StopJob.Journey

/-!
# Results and stored rows

A job that returns says `skipped`, `success` or `failed`.  `Verdict.Means` is what each of these
words stands for in the tables and in the calls of the job: which status the row had and has, what
error text it holds, and how the work after the mark went.  `returned_verdict` says that a returned
job has told the truth, with exactly one of the three.

The proof reads the end of the journey against the tables: a skipped job has made one call, and in
the other cases the last call of the journey is the write that the row shows.
-/

namespace Teardown

/-- What tables show after a committed write that was the last call. -/
lemma Tells.of_last_write {calls : List Call} {id : Int} {status : Status} {error : Option String}
    {s t u v : Store} (h : Tells s (calls ++ [.write id status error u v (.ok ())]) t) :
    ∃ row, t.row? id = some row ∧ row.status = status.text ∧ row.error = error := by
  obtain ⟨w, _, rfl, ⟨committed, _⟩ | ⟨_, failure, hfailure⟩, rfl⟩ := tells_append.mp h
  · obtain ⟨row, now, _, hrow⟩ := committed.rows
    exact ⟨_, hrow, rfl, rfl⟩
  · cases hfailure

namespace StopJob

/-! ### Verdicts -/

/-- What a job that returns says of its deployment. -/
inductive Verdict where
  | skipped
  | success
  | failed
deriving DecidableEq, Repr

/-- The word for a verdict in a result. -/
def Verdict.status : Verdict → String
  | .skipped => "skipped"
  | .success => "success"
  | .failed => "failed"

/-- What a verdict stands for, when the tables were `s` before the job and are `t` after it, and the
job has made the given calls. -/
def Verdict.Means (config : Config Seconds) (s : Store) (calls : List Call) (t : Store) :
    Verdict → Prop
  | .skipped =>
    (∃ row, s.row? config.deploymentId = some row ∧ row.status ≠ Status.running.text) ∧ t = s ∧
      ∀ call ∈ calls, call.isRemote = false
  | .success =>
    s.Running config.deploymentId ∧
      (∃ row, t.row? config.deploymentId = some row ∧ row.status = Status.stopped.text ∧
        row.error = none) ∧
      ∃ inst marking work events run, Marked config inst marking ∧
        Tried config inst work events (.ok run) ∧ calls = marking ++ work
  | .failed =>
    s.Running config.deploymentId ∧ ∃ cause,
      (∃ row, t.row? config.deploymentId = some row ∧ row.status = Status.failed.text ∧
        row.error = some ("failed to stop deployment: " ++ cause.message)) ∧
      ∃ inst marking work events u v, Marked config inst marking ∧
        Tried config inst work events (.error cause) ∧ calls = marking ++ (work ++
          [.write config.deploymentId .failed (some (failureText cause)) u v (.ok ())])

section Means

variable {config : Config Seconds} {s t : Store} {calls : List Call}

/-- Tables and calls have one meaning only. -/
lemma Verdict.Means.unique {a b : Verdict} (ha : a.Means config s calls t)
    (hb : b.Means config s calls t) : a = b := by
  -- A running row is not skipped, and a row is not both `stopped` and `failed`.
  have hrunning : Verdict.skipped.Means config s calls t → ¬ s.Running config.deploymentId := by
    rintro ⟨⟨row, hrow, hne⟩, _⟩ ⟨row', hrow', hstatus⟩
    obtain rfl := Option.some.inj (hrow.symm.trans hrow')
    exact hne hstatus
  have hended : Verdict.success.Means config s calls t → ¬ Verdict.failed.Means config s calls t := by
    rintro ⟨_, ⟨row, hrow, hstopped, _⟩, _⟩ ⟨_, _, ⟨row', hrow', hfailed, _⟩, _⟩
    obtain rfl := Option.some.inj (hrow.symm.trans hrow')
    have htext : Status.stopped.text = Status.failed.text := hstopped.symm.trans hfailed
    exact absurd htext (by decide)
  cases a <;> cases b
  · rfl
  · exact absurd hb.1 (hrunning ha)
  · exact absurd hb.1 (hrunning ha)
  · exact absurd ha.1 (hrunning hb)
  · rfl
  · exact absurd hb (hended ha)
  · exact absurd ha.1 (hrunning hb)
  · exact absurd ha (hended hb)
  · rfl

/-- A job that has a verdict has not left its row `stopping`, unless it has changed nothing. -/
lemma Verdict.Means.not_stopping {v : Verdict} (h : v.Means config s calls t)
    {row : Store.DeploymentRow} (hrow : t.row? config.deploymentId = some row)
    (hstopping : row.status = Status.stopping.text) : t = s := by
  cases v with
  | skipped => exact h.2.1
  | success =>
    obtain ⟨_, ⟨row', hrow', hstopped, _⟩, _⟩ := h
    obtain rfl := Option.some.inj (hrow.symm.trans hrow')
    have htext : Status.stopping.text = Status.stopped.text := hstopping.symm.trans hstopped
    exact absurd htext (by decide)
  | failed =>
    obtain ⟨_, _, ⟨row', hrow', hfailed, _⟩, _⟩ := h
    obtain rfl := Option.some.inj (hrow.symm.trans hrow')
    have htext : Status.stopping.text = Status.failed.text := hstopping.symm.trans hfailed
    exact absurd htext (by decide)

/-- A deployment that a job has marked was running. -/
lemma Marked.running {inst : Instance} {marking rest : List Call} (h : Marked config inst marking)
    (htells : Tells s (marking ++ rest) t) : s.Running config.deploymentId := by
  obtain ⟨u, hmarking, _⟩ := tells_append.mp htells
  exact (h.tells hmarking).running

/-- A job that has found its deployment not running means `skipped`. -/
lemma Found.means {d : Deployment} (h : Found config d calls) (idle : d.status.isStoppable = false)
    (htells : Tells s calls t) : Verdict.skipped.Means config s calls t := by
  obtain ⟨rfl, hread⟩ := h.tells htells
  obtain ⟨row, hrow, hstatus, _⟩ := Store.getDeployment_ok hread
  refine ⟨⟨row, hrow, fun hrunning => ?_⟩, rfl, ?_⟩
  · have hd : d.status = .running := Status.eq_of_text_eq (hstatus.symm.trans hrunning)
    rw [hd] at idle
    cases idle
  · obtain ⟨_⟩ := h
    intro call hcall
    rw [List.mem_singleton.mp hcall]
    rfl

/-- A job whose work has succeeded means `success`. -/
lemma Tried.means_success {inst : Instance} {marking work : List Call} {events : Timeline}
    {run : RunHandle} (marked : Marked config inst marking)
    (tried : Tried config inst work events (.ok run)) (htells : Tells s (marking ++ work) t) :
    Verdict.success.Means config s (marking ++ work) t := by
  have hrunning := marked.running htells
  refine ⟨hrunning, ?_, inst, marking, work, events, run, marked, tried, rfl⟩
  cases tried with
  | stopped _ _ _ _ =>
    rw [← List.append_assoc] at htells
    exact htells.of_last_write

/-- A job whose work has failed, and which has recorded that, means `failed`. -/
lemma Tried.means_failed {inst : Instance} {marking work : List Call} {events : Timeline}
    {cause : Failure} {u v : Store} (marked : Marked config inst marking)
    (tried : Tried config inst work events (.error cause))
    (htells : Tells s (marking ++ (work ++
      [.write config.deploymentId .failed (some (failureText cause)) u v (.ok ())])) t) :
    Verdict.failed.Means config s (marking ++ (work ++
      [.write config.deploymentId .failed (some (failureText cause)) u v (.ok ())])) t := by
  have hrunning := marked.running htells
  refine ⟨hrunning, cause, ?_, inst, marking, work, events, u, v, marked, tried, rfl⟩
  rw [← List.append_assoc] at htells
  exact htells.of_last_write

end Means

/-! ### The theorem -/

/-- If a job that works alone returns, then its result is true: exactly one verdict holds, it is the
one that the result names, and the row is not left `stopping`.  This holds whatever the tables, the
answers of the service and the failures of the storage are. -/
theorem returned_verdict {ρ : Type} (env : Environment ρ) (client : WorkflowClient (StateM ρ))
    (config : Config Seconds) (called : String) (queue : Queue) (store : Store) (outside : ρ)
    (result : JobResult)
    (hreturned : ((execute (env.surroundings client.remote) config called).run
      (World.opening queue store outside)).1 = .returned result) :
    let final := ((execute (env.surroundings client.remote) config called).run
      (World.opening queue store outside)).2
    let calls := final.record.map Event.call
    ∃ verdict : Verdict, result.status = verdict.status ∧
      verdict.Means config store calls final.store ∧
      (∀ other : Verdict, other.Means config store calls final.store → other = verdict) ∧
      ∀ row, final.store.row? config.deploymentId = some row →
        row.status = Status.stopping.text → final.store = store := by
  intro final calls
  have hname : Text.strip called = name := by
    by_contra hne
    rw [execute_of_ne_name _ config hne] at hreturned
    cases hreturned
  obtain ⟨s, made, t, hjourney, htells, hscene, hend⟩ :=
    execute_journey env client config hname (World.opening queue store outside)
  have hcalls : calls = made := by
    have hrecord : final.record = made.map (Event.mk 0) := congrArg Scene.record hscene
    have hcall : (Event.call ∘ Event.mk 0) = id := rfl
    simp only [calls, hrecord, List.map_map, hcall, List.map_id]
  have hstore : final.store = t := congrArg Scene.store hscene
  have hverdict : ∃ verdict : Verdict, result.status = verdict.status ∧
      verdict.Means config store made t := by
    obtain ⟨log, hdone⟩ := hend (.ok result) hreturned
    cases hjourney with
    | reading | locating | marking | starting | naming | waiting | recording | reconciling
    | raised => cases hdone
    | skipped found idle =>
      cases hdone
      exact ⟨.skipped, rfl, found.means idle htells⟩
    | stopped marked tried =>
      cases hdone
      exact ⟨.success, rfl, tried.means_success marked htells⟩
    | failed marked tried _ =>
      cases hdone
      exact ⟨.failed, rfl, tried.means_failed marked htells⟩
  obtain ⟨verdict, hstatus, hmeans⟩ := hverdict
  rw [hcalls, hstore]
  exact ⟨verdict, hstatus, hmeans, fun other hother => hother.unique hmeans,
    fun row hrow hstopping => hmeans.not_stopping hrow hstopping⟩

/-! ### A failure that is recorded -/

/-- An environment in which no time passes, and whose storage fails as a list says, operation by
operation. -/
def faltering : Environment (List (Option Failure)) where
  fault := fun
    | [] => (none, [])
    | fault :: rest => (fault, rest)
  stamp := pure "2020-01-02 03:04:06"
  clock := ⟨pure (.whole 0), fun _ => pure ()⟩
  newId := pure ""
  write _ := pure ()
  horizon := 20

/-- A service that has carried out every teardown by the first poll. -/
def prompt : WorkflowClient (StateM (List (Option Failure))) where
  source := pure (.ok "prompt")
  start _ := pure (.ok { id := .number 7 })
  poll _ := pure (.ok .succeeded)

/-- The teardown succeeds, but the write of `stopped` fails. -/
def unrecorded : JobEnd × World (List (Option Failure)) :=
  (execute (faltering.surroundings prompt.remote) ⟨1, ⟨.whole 10, .whole 1⟩⟩ name).run
    (World.opening { history := 1 } Github.oneRunning
      [none, none, none, some (.store (.deploymentUnwritable 1))])

/-- The job returns, and its result is true. -/
theorem unrecorded_verdict : ∃ result, unrecorded.1 = .returned result ∧
    ∃ verdict : Verdict, result.status = verdict.status ∧
      verdict.Means ⟨1, ⟨.whole 10, .whole 1⟩⟩ Github.oneRunning
        (unrecorded.2.record.map Event.call) unrecorded.2.store ∧
      (∀ other : Verdict, other.Means ⟨1, ⟨.whole 10, .whole 1⟩⟩ Github.oneRunning
        (unrecorded.2.record.map Event.call) unrecorded.2.store → other = verdict) ∧
      ∀ row, unrecorded.2.store.row? 1 = some row →
        row.status = Status.stopping.text → unrecorded.2.store = Github.oneRunning := by
  have hreturns : (outcomeOf unrecorded.1).any (·.isOk) = true := by
    decide +kernel
  obtain ⟨outcome, houtcome, hok⟩ := (Option.any_eq_true ..).mp hreturns
  obtain ⟨result, rfl⟩ : ∃ result, outcome = .ok result := by
    cases outcome with
    | ok result => exact ⟨result, rfl⟩
    | error _ => cases hok
  have hreturned : unrecorded.1 = .returned result := eq_of_outcomeOf houtcome
  refine ⟨result, hreturned, ?_⟩
  unfold unrecorded at hreturned ⊢
  exact returned_verdict faltering prompt ⟨1, ⟨.whole 10, .whole 1⟩⟩ name { history := 1 }
    Github.oneRunning [none, none, none, some (.store (.deploymentUnwritable 1))] result hreturned

end StopJob

end Teardown
