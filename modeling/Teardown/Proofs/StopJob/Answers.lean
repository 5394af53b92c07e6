import Mathlib.Tactic.Lemma
import Teardown.Proofs.Record

/-!
# What an answer does to a scene

A `Service` says of a client which messages it may send for a start or a poll with a given result;
a remote client sends none.  `Answers` says of each question of the stop job what may be answered,
which calls are noted and what becomes of the tables.  A read that succeeds tells the truth, a
write that succeeds is committed, and everything else leaves the tables as they are.  No assumption
is made about when an operation fails.

`answered` is the one place where the environment is opened: all else about runs of the job is
derived from `Answers`.
-/

namespace Teardown

/-- Which messages a client may send for a start or a poll with a given result. -/
structure Service where
  starts : Instance → Except Failure RunHandle → List Sent → Prop
  polls : RunHandle → Except Failure RunStatus → List Sent → Prop

/-- The service of a client that sends no messages. -/
def Service.silent : Service where
  starts _ _ sent := sent = []
  polls _ _ sent := sent = []

/-- A client keeps to a service, and touches nothing but the record. -/
structure WorkflowClient.KeepsTo {ρ : Type} (client : WorkflowClient (Play ρ)) (σ : Service) :
    Prop where
  source : ∀ w, (client.source.run w).2.toScene = w.toScene
  start : ∀ inst w, ∃ sent, σ.starts inst ((client.start inst).run w).1 sent ∧
    ((client.start inst).run w).2.toScene = w.toScene.after (sent.map .ofSent) w.store
  poll : ∀ run w, ∃ sent, σ.polls run ((client.poll run).run w).1 sent ∧
    ((client.poll run).run w).2.toScene = w.toScene.after (sent.map .ofSent) w.store

/-- A remote client sends no messages of its own. -/
lemma WorkflowClient.remote_keepsTo {ρ : Type} (client : WorkflowClient (StateM ρ)) :
    client.remote.KeepsTo .silent where
  source _ := rfl
  start _ w := ⟨[], rfl, (Scene.after_nil w.toScene).symm⟩
  poll _ w := ⟨[], rfl, (Scene.after_nil w.toScene).symm⟩

namespace StopJob

/-- What may be answered to a question, the calls that it takes and the tables after it. -/
def Answers (σ : Service) (s : Store) :
    (q : Question Seconds) → Answer q → List Call → Store → Prop
  | .deployment id, result, calls, t =>
    t = s ∧ calls = [.deployment id s result] ∧ ∀ d, result = .ok d → s.getDeployment id = .ok d
  | .location id, result, calls, t =>
    t = s ∧ calls = [.location id s result] ∧ ∀ i, result = .ok i → s.getInstance id = .ok i
  | .write id status error, result, calls, t =>
    calls = [.write id status error s t result] ∧
      (Store.Commits id status error s t ∧ result = .ok () ∨
        t = s ∧ ∃ failure, result = .error failure)
  | .start inst, result, calls, t =>
    t = s ∧ ∃ sent, σ.starts inst result sent ∧ calls = sent.map .ofSent ++ [.start inst result]
  | .source, result, calls, t => t = s ∧ calls = [.source result]
  | .wait .clock, _, calls, t => t = s ∧ calls = []
  | .wait (.poll run), look, calls, t =>
    t = s ∧ ∃ sent, σ.polls run look.result sent ∧
      calls = sent.map .ofSent ++ [.poll run look.result]
  | .wait (.pause _), _, calls, t => t = s ∧ calls = []

/-- What the calls of an answer tell about the tables. -/
lemma Answers.tells {σ : Service} {s t : Store} {q : Question Seconds} {a : Answer q}
    {calls : List Call} (h : Answers σ s q a calls t) : Tells s calls t := by
  match q with
  | .deployment id | .location id =>
    obtain ⟨rfl, rfl, _⟩ := h
    simp [Tells]
  | .write id status error =>
    obtain ⟨rfl, hwrite⟩ := h
    exact ⟨rfl, hwrite, rfl⟩
  | .start inst =>
    obtain ⟨rfl, sent, _, rfl⟩ := h
    exact tells_append.mpr ⟨t, tells_sent.mpr rfl, rfl⟩
  | .source =>
    obtain ⟨rfl, rfl⟩ := h
    rfl
  | .wait .clock | .wait (.pause _) =>
    obtain ⟨rfl, rfl⟩ := h
    rfl
  | .wait (.poll run) =>
    obtain ⟨rfl, sent, _, rfl⟩ := h
    exact tells_append.mpr ⟨t, tells_sent.mpr rfl, rfl⟩

/-- An answer that `Answers` allows, from the scene before the question to the scene after it. -/
def Answered (σ : Service) (v : Scene) (q : Question Seconds) (a : Answer q) (v' : Scene) : Prop :=
  ∃ calls t, Answers σ v.store q a calls t ∧ v' = v.after calls t

/-! ### The environment -/

section Environment

variable {ρ : Type} (env : Environment ρ)

/-- A guarded operation fails and leaves the scene alone, or it is carried out in that scene. -/
lemma guarded_run {α : Type} (operation : Play ρ (Except Failure α)) (w : World ρ) :
    (∃ failure, ((env.guarded operation).run w).1 = .error failure ∧
        ((env.guarded operation).run w).2.toScene = w.toScene) ∨
      ∃ v : World ρ, v.toScene = w.toScene ∧ (env.guarded operation).run w = operation.run v := by
  unfold Environment.guarded
  rw [Play.run_bind]
  cases ((Play.outside env.fault).run w).1 with
  | some failure => exact .inl ⟨failure, rfl, rfl⟩
  | none => exact .inr ⟨((Play.outside env.fault).run w).2, rfl, rfl⟩

/-- A guarded look at the tables tells the truth if it succeeds, and leaves the scene alone. -/
lemma guarded_inspect {α : Type} (question : Store → Except Store.Error α) (w : World ρ) :
    let seen := (env.guarded (Store.inspect question)).run w
    seen.2.toScene = w.toScene.after [] w.store ∧
      ∀ a, seen.1 = .ok a → question w.store = .ok a := by
  intro seen
  obtain ⟨failure, hfail, hscene⟩ | ⟨v, hv, hrun⟩ := guarded_run env (Store.inspect question) w
  · refine ⟨hscene.trans (Scene.after_nil _).symm, fun a ha => ?_⟩
    have hne : (.error failure : Except Failure α) = .ok a := hfail.symm.trans ha
    cases hne
  · have hstore : v.store = w.store := congrArg Scene.store hv
    have hseen : seen = ((question v.store).mapError .store, v) := hrun
    rw [hseen, ← hstore]
    exact ⟨hv.trans (hstore ▸ (Scene.after_nil _).symm), fun a ha => Except.eq_ok_of_mapError ha⟩

/-- A guarded write is committed if it succeeds, and otherwise leaves the tables alone. -/
lemma guarded_write (id : Int) (status : Status) (error : Option String) (w : World ρ) :
    let tables : Repository (Play ρ) := Store.repository (Play.outside env.stamp)
    let written := (env.guarded (tables.setStatusAndError id status error)).run w
    ∃ t, written.2.toScene = w.toScene.after [] t ∧
      (Store.Commits id status error w.store t ∧ written.1 = .ok () ∨
        t = w.store ∧ ∃ failure, written.1 = .error failure) := by
  intro tables written
  obtain ⟨failure, hfail, hscene⟩ | ⟨v, hv, hrun⟩ :=
    guarded_run env (tables.setStatusAndError id status error) w
  · exact ⟨w.store, hscene.trans (Scene.after_nil _).symm, .inr ⟨rfl, failure, hfail⟩⟩
  · have hwritten : written = (tables.setStatusAndError id status error).run v := hrun
    obtain ⟨now, u, hu, htables⟩ : ∃ now u, u.toScene = v.toScene ∧
        (tables.setStatusAndError id status error).run v =
          (((v.store.setStatusAndError now id status error).1.mapError Failure.store).map
            fun _ => (),
          { u with store := (v.store.setStatusAndError now id status error).2 }) :=
      ⟨(env.stamp v.outside).1, ((Play.outside env.stamp).run v).2, rfl, rfl⟩
    have hstore : v.store = w.store := congrArg Scene.store hv
    rw [hwritten, htables, ← hstore]
    refine ⟨(v.store.setStatusAndError now id status error).2, ?_, ?_⟩
    · rw [← hv, ← hu]
      simp [Scene.after]
    · cases hresult : v.store.setStatusAndError now id status error with
      | mk result t =>
        cases result with
        | ok d => exact .inl ⟨Store.setStatusAndError_ok hresult, rfl⟩
        | error e => exact .inr ⟨Store.setStatusAndError_error hresult, _, rfl⟩

/-- Every answer of the environment is one that `Answers` allows, and the scene after it holds the
calls that it took. -/
theorem answered {client : WorkflowClient (Play ρ)} {σ : Service} (hclient : client.KeepsTo σ)
    (q : Question Seconds) (w : World ρ) :
    Answered σ w.toScene q ((answer (env.surroundings client) q).run w).1
      ((answer (env.surroundings client) q).run w).2.toScene := by
  match q with
  | .deployment id =>
    obtain ⟨hscene, htrue⟩ := guarded_inspect env (Store.getDeployment id) w
    exact ⟨_, _, ⟨rfl, rfl, htrue⟩, Play.noted_scene (fun seen _ => .deployment id seen) hscene⟩
  | .location id =>
    obtain ⟨hscene, htrue⟩ := guarded_inspect env (Store.getInstance id) w
    exact ⟨_, _, ⟨rfl, rfl, htrue⟩, Play.noted_scene (fun seen _ => .location id seen) hscene⟩
  | .write id status error =>
    obtain ⟨t, hscene, hwrite⟩ := guarded_write env id status error w
    exact ⟨_, t, ⟨rfl, hwrite⟩, Play.noted_scene (.write id status error) hscene⟩
  | .start inst =>
    obtain ⟨sent, hsent, hscene⟩ := hclient.start inst w
    exact ⟨_, _, ⟨rfl, sent, hsent, rfl⟩, Play.noted_scene (fun _ _ => .start inst) hscene⟩
  | .source =>
    have hscene := (hclient.source w).trans (Scene.after_nil _).symm
    exact ⟨_, _, ⟨rfl, rfl⟩, Play.noted_scene (fun _ _ => .source) hscene⟩
  | .wait .clock => exact ⟨[], _, ⟨rfl, rfl⟩, (Scene.after_nil w.toScene).symm⟩
  | .wait (.pause span) => exact ⟨[], _, ⟨rfl, rfl⟩, (Scene.after_nil w.toScene).symm⟩
  | .wait (.poll run) =>
    obtain ⟨sent, hsent, hscene⟩ := hclient.poll run w
    exact ⟨_, _, ⟨rfl, sent, hsent, rfl⟩, Play.noted_scene (fun _ _ => .poll run) hscene⟩

end Environment

end StopJob

end Teardown
