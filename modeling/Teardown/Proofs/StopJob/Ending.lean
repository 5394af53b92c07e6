import Mathlib.Tactic.Lemma
import Teardown.Proofs.StopJob.Raised
import Teardown.Proofs.StopJob.Verdict

/-!
# How a job ends

A job that works alone and is not interrupted returns a true verdict, or it raises for one of the two
reasons that there are: `execute_ends`.  Beyond the journey and the course of the job, the invariant
`Followed` knows that the deployment can be read after a write that was the last call.  So a job that
reports a failure leaves a row that is there, and that can be read unless storage fails.
-/

namespace Teardown.StopJob

/-! ### Rows that can be read -/

/-- The deployment of a write that was the last of some calls can be read afterwards. -/
def Readable (calls : List Call) (t : Store) : Prop :=
  ∀ id status error u v, calls.getLast? = some (.write id status error u v (.ok ())) →
    ∃ d, t.getDeployment id = .ok d

/-- The deployment of a last write that has succeeded can be read. -/
lemma Readable.of_last_write {calls : List Call} {id : Int} {status : Status}
    {error : Option String} {u v t : Store}
    (h : Readable (calls ++ [.write id status error u v (.ok ())]) t) :
    ∃ d, t.getDeployment id = .ok d :=
  h id status error u v List.getLast?_concat

/-- The deployment of a write that has succeeded can be read. -/
def Kept (t : Store) : (q : Question Seconds) → Answer q → Prop
  | .write id _ _, result => result = .ok () → ∃ d, t.getDeployment id = .ok d
  | _, _ => True

/-- An answer keeps the deployment of the last write readable. -/
lemma Readable.answer {s t : Store} {q : Question Seconds} {a : Answer q} {calls more : List Call}
    (h : Readable calls s) (ha : Answers .silent s q a more t) (hkept : Kept t q a) :
    Readable (calls ++ more) t := by
  intro id status error u v hlast
  match q with
  | .deployment _ | .location _ =>
    obtain ⟨rfl, rfl, _⟩ := ha
    simp at hlast
  | .write _ _ _ =>
    obtain ⟨rfl, _⟩ := ha
    rw [List.getLast?_concat] at hlast
    cases hlast
    exact hkept rfl
  | .start _ =>
    obtain ⟨rfl, sent, rfl, rfl⟩ := ha
    simp at hlast
  | .source =>
    obtain ⟨rfl, rfl⟩ := ha
    simp at hlast
  | .wait .clock | .wait (.pause _) =>
    obtain ⟨rfl, rfl⟩ := ha
    rw [List.append_nil] at hlast
    exact h id status error u v hlast
  | .wait (.poll _) =>
    obtain ⟨rfl, sent, rfl, rfl⟩ := ha
    simp at hlast

section Telling

variable {ρ : Type} (env : Environment ρ)

/-- After a guarded write that has succeeded the deployment can be read. -/
lemma guarded_write_readable (id : Int) (status : Status) (error : Option String) (w : World ρ) :
    let tables : Repository (Play ρ) := Store.repository (Play.outside env.stamp)
    let written := (env.guarded (tables.setStatusAndError id status error)).run w
    written.1 = .ok () → ∃ d, written.2.store.getDeployment id = .ok d := by
  intro tables written hok
  obtain ⟨failure, hfail, _⟩ | ⟨v, _, hrun⟩ :=
    guarded_run env (tables.setStatusAndError id status error) w
  · have hne : (.error failure : Except Failure Unit) = .ok () := hfail.symm.trans hok
    cases hne
  · have hwritten : written = (tables.setStatusAndError id status error).run v := hrun
    obtain ⟨now, u, htables⟩ : ∃ now, ∃ u : World ρ,
        (tables.setStatusAndError id status error).run v =
          (((v.store.setStatusAndError now id status error).1.mapError Failure.store).map
            fun _ => (),
          { u with store := (v.store.setStatusAndError now id status error).2 }) :=
      ⟨(env.stamp v.outside).1, ((Play.outside env.stamp).run v).2, rfl⟩
    rw [hwritten, htables] at hok ⊢
    cases hresult : v.store.setStatusAndError now id status error with
    | mk result t =>
      rw [hresult] at hok
      cases result with
      | ok d => exact ⟨d, Store.getDeployment_of_setStatusAndError hresult⟩
      | error e => cases hok

variable {env}

/-- What may be answered to a question where nothing is interrupted. -/
def Told (v : Scene) (q : Question Seconds) (a : Answer q) (v' : Scene) : Prop :=
  ∃ calls t, Answers .silent v.store q a calls t ∧ Handled calls ∧ Kept t q a ∧
    v' = v.after calls t

/-- Every answer to a job that is not interrupted is one that `Told` allows. -/
lemma told {client : WorkflowClient (StateM ρ)} (h : env.Uninterrupted client)
    (q : Question Seconds) (w : World ρ) :
    Told w.toScene q ((answer (env.surroundings client.remote) q).run w).1
      ((answer (env.surroundings client.remote) q).run w).2.toScene := by
  obtain ⟨calls, t, ha, hscene⟩ := answered env client.remote_keepsTo q w
  have handled : Handled calls := fun call hcall cause hcause => by
    rw [ha.failure? call hcall] at hcause
    exact failureOf_answer h q w hcause
  refine ⟨calls, t, ha, handled, ?_, hscene⟩
  match q with
  | .write id status error =>
    have hstore : ((answer (env.surroundings client.remote) (.write id status error)).run w).2.store =
        t := congrArg Scene.store hscene
    rw [← hstore]
    exact guarded_write_readable env id status error w
  | .deployment _ | .location _ | .start _ | .source | .wait .clock | .wait (.poll _)
  | .wait (.pause _) => trivial

end Telling

/-! ### An execution -/

section Followed

variable {config : Config Seconds} {store : Store}

/-- What is known of a job in a state that has made the given calls, from the tables `store` to the
tables `t`. -/
structure Followed (config : Config Seconds) (store : Store) (s : State Seconds)
    (calls : List Call) (t : Store) : Prop where
  journey : Journey config s calls
  course : Course .silent config s.phase calls
  tells : Tells store calls t
  handled : Handled calls
  readable : Readable calls t

lemma Followed.start : Followed config store .initial [] store where
  journey := .reading
  course := .reading
  tells := rfl
  handled _ hcall := nomatch hcall
  readable _ _ _ _ _ hlast := nomatch hlast

/-- Every answered question takes what is known of a job further. -/
lemma Followed.step {s : State Seconds} {calls more : List Call} {t u : Store}
    {log : List Log.Entry} {q : Question Seconds} {resume : Answer q → State Seconds} {a : Answer q}
    (h : Followed config store s calls t) (hask : next config name s = .ask log q resume)
    (ha : Answers .silent t q a more u) (handled : Handled more) (kept : Kept u q a) :
    Followed config store (resume a) (calls ++ more) u where
  journey := h.journey.step hask ha
  course := h.course.step hask ha
  tells := tells_append.mpr ⟨t, h.tells, ha.tells⟩
  handled := List.forall_mem_append.mpr ⟨h.handled, handled⟩
  readable := h.readable.answer ha kept

/-- A fatal call is one that has failed. -/
lemma failure?_of_fatal? {call : Call} {failure : Failure} (h : fatal? call = some failure) :
    call.failure? = some failure := by
  unfold fatal? at h
  split at h
  · exact h
  · exact h
  · exact h
  · exact h
  · cases h

/-- What an execution has come to, with the calls that it has made from the tables `s` to the tables
`t`. -/
def Ends (config : Config Seconds) (s : Store) (calls : List Call) (t : Store) : JobEnd → Prop
  | .unfinished => True
  | .raised failure => failure.isInterrupt = false ∧
      (Refused config failure calls ∨ Unreconciled config failure calls)
  | .returned result => ∃ verdict : Verdict, result.status = verdict.status ∧
      verdict.Means config s calls t ∧
        (verdict = .failed → ∃ d, t.getDeployment config.deploymentId = .ok d)

/-- A job that has raised was refused or could not record its failure. -/
lemma Followed.raised {s : State Seconds} {calls : List Call} {t : Store} {log : List Log.Entry}
    {failure : Failure} (h : Followed config store s calls t)
    (hdone : next config name s = .done log (.error failure)) :
    Ends config store calls t (.raised failure) := by
  have hphase := (next_eq_error_iff config name s failure).mp ⟨log, hdone⟩
  have hcourse := h.course
  rw [hphase] at hcourse
  have hends := hcourse.of_raised h.handled
  have hfatal : calls.getLast?.bind fatal? = some failure := by
    rcases hends with refused | unreconciled
    · exact refused.fatal
    · exact unreconciled.fatal
  obtain ⟨call, hlast, hcall⟩ := Option.bind_eq_some_iff.mp hfatal
  exact ⟨h.handled call (List.mem_of_getLast? hlast) failure (failure?_of_fatal? hcall), hends⟩

/-- A job that has returned tells the truth. -/
lemma Followed.returned {s : State Seconds} {calls : List Call} {t : Store} {log : List Log.Entry}
    {result : JobResult} (h : Followed config store s calls t)
    (hdone : next config name s = .done log (.ok result)) :
    Ends config store calls t (.returned result) := by
  obtain ⟨journey, _, htells, _, readable⟩ := h
  cases journey with
  | reading | locating | marking | starting | naming | waiting | recording | reconciling
  | raised => cases hdone
  | skipped found idle =>
    cases hdone
    exact ⟨.skipped, rfl, found.means idle htells, nofun⟩
  | stopped marked tried =>
    cases hdone
    exact ⟨.success, rfl, tried.means_success marked htells, nofun⟩
  | failed marked tried _ =>
    cases hdone
    refine ⟨.failed, rfl, tried.means_failed marked htells, fun _ => ?_⟩
    rw [← List.append_assoc] at readable
    exact readable.of_last_write

end Followed

/-- An execution that works alone and is not interrupted returns a true verdict, or it was refused or
could not record its failure, unless it does not end within the horizon. -/
theorem execute_ends {ρ : Type} {env : Environment ρ} {client : WorkflowClient (StateM ρ)}
    (uninterrupted : env.Uninterrupted client) (config : Config Seconds) (w : World ρ) :
    let execution := (execute (env.surroundings client.remote) config name).run w
    ∃ calls t, execution.2.toScene = w.toScene.after calls t ∧
      Ends config w.store calls t execution.1 := by
  intro execution
  let Inv (s : State Seconds) (v : Scene) : Prop := ∃ calls t,
    Followed config w.store s calls t ∧ v = w.toScene.after calls t
  have hstart : Inv State.initial w.toScene := ⟨[], w.store, .start, w.toScene.after_nil.symm⟩
  have hkeep : ∀ {s v log q resume a v'}, Inv s v → next config name s = .ask log q resume →
      Told v q a v' → Inv (resume a) v' := by
    rintro s v log q resume a v' ⟨calls, t, followed, rfl⟩ hask ⟨more, u, ha, handled, kept, rfl⟩
    exact ⟨calls ++ more, u, followed.step hask ha handled kept,
      w.toScene.after_after calls more t u⟩
  have hname : Text.strip name = name := by decide
  obtain ⟨s, ⟨calls, t, followed, hscene⟩, hend⟩ :=
    execute_invariant (env.surroundings client.remote) config hname (fun _ _ => rfl)
      (told uninterrupted) hkeep hstart
  refine ⟨calls, t, hscene, ?_⟩
  cases hexecution : execution.1 with
  | unfinished => trivial
  | raised failure =>
    obtain ⟨log, hdone⟩ := hend (.error failure) hexecution
    exact followed.raised hdone
  | returned result =>
    obtain ⟨log, hdone⟩ := hend (.ok result) hexecution
    exact followed.returned hdone

end Teardown.StopJob
