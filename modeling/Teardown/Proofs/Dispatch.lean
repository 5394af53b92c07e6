import Mathlib.Tactic.Lemma
import Teardown.Proofs.LifeCycle

/-!
# At most one teardown for a deployment

Over any number of turns, the teardown of a deployment is started at most once, and never if the
deployment was not running at the start.  A turn that starts a teardown has found the deployment
running and has marked it before.  The mark is never undone: by `Steady.spent`, a deployment with a
committed write is not running.  So the turn before which a teardown was started cannot be followed
by another one for the same deployment.
-/

namespace Teardown

/-- The instances for which a record starts a teardown on behalf of a deployment. -/
def startsFor (named : Nat → Option Int) (id : Int) (record : List Event) : List Instance :=
  record.filterMap fun e => if named e.turn = some id then e.call.start? else none

/-- A start comes after a committed mark of its own turn.  The mark is on the deployment that the
task of the turn names, which was running at the start, and the teardown is started for the instance
that the tables held for it. -/
def Founded (named : Nat → Option Int) (s : Store) (past : List Event) (e : Event) : Prop :=
  ∀ inst, e.call.start? = some inst → ∃ id row mark, named e.turn = some id ∧
    (e.turn, mark) ∈ commits past ∧ mark.id = id ∧ mark.status = .stopping ∧
    s.row? id = some row ∧ row.status = Status.running.text ∧
    s.getInstance row.instanceId = .ok inst ∧ inst.id = row.instanceId

/-- At most one teardown is started for a deployment, and only for a reason. -/
structure AtMostOnce (named : Nat → Option Int) (s : Store) (record : List Event) : Prop where
  once : ∀ id, (startsFor named id record).length ≤ 1
  never : ∀ id, ¬ s.Running id → startsFor named id record = []
  founded : EachAfter (Founded named s) record

section History

variable {named : Nat → Option Int} {s t u : Store} {n : Nat} {record : List Event}

/-- The starts for a deployment after some more calls of one turn. -/
lemma startsFor_append (id : Int) (k : Nat) (calls : List Call) :
    startsFor named id (record ++ calls.map (Event.mk k)) = startsFor named id record ++
      if named k = some id then calls.filterMap Call.start? else [] := by
  unfold startsFor
  rw [List.filterMap_append, List.filterMap_map]
  split
  · rename_i hname
    have hfun : (fun e : Event => if named e.turn = some id then e.call.start? else none) ∘
        Event.mk k = Call.start? := by
      funext call
      exact if_pos hname
    rw [hfun]
  · rename_i hname
    congr 1
    exact List.filterMap_eq_nil_iff.mpr fun call _ => if_neg hname

/-- A deployment for which a teardown was started is not running, and was running at the start. -/
lemma running_of_startsFor (hsteady : Steady named s n (commits record) t)
    (hfounded : EachAfter (Founded named s) record) {id : Int}
    (h : startsFor named id record ≠ []) : ¬ t.Running id ∧ s.Running id := by
  obtain ⟨inst, hinst⟩ := List.exists_mem_of_ne_nil _ h
  obtain ⟨e, he, hstart⟩ := List.mem_filterMap.mp hinst
  obtain ⟨past, hpast, hsub⟩ := hfounded.exists_of_mem he
  split at hstart
  · rename_i hname
    obtain ⟨_, row, mark, hid, hmark, rfl, _, hrow, hstatus, _⟩ := hpast inst hstart
    obtain rfl := Option.some.inj (hid.symm.trans hname)
    have hcommitted : (e.turn, mark) ∈ commits record := List.filterMap_subset _ hsub hmark
    exact ⟨hsteady.spent _ hcommitted, row, hrow, hstatus⟩
  · cases hstart

/-- A job starts at most one teardown, and only for a deployment that it has found running. -/
lemma StopJob.Effect.starts {id : Int} {writes : List Write} {insts : List Instance}
    (h : StopJob.Effect id s writes insts t) :
    insts = [] ∨ insts.length = 1 ∧ s.Running id := by
  cases h with
  | none | marked _ _ => exact .inl rfl
  | started located _ | ended located _ _ _ => exact .inr ⟨rfl, located.running⟩

/-- A start that comes after the mark of its job is founded. -/
lemma founded_of_markedStart {id : Int} {past : List Call} {call : Call}
    (htold : Tells s (record.map Event.call) t) (hsteady : Steady named s n (commits record) t)
    (hname : named n = some id) (h : StopJob.MarkedStart t id past call) :
    Founded named s (record ++ past.map (Event.mk n)) ⟨n, call⟩ := by
  intro inst hstart
  obtain ⟨hlocates, mark, hmark, hid, hstopping⟩ := h inst hstart
  have hrunning := hlocates.running
  obtain ⟨d, hread, _, hinst⟩ := hlocates
  obtain ⟨row, hrow, _, hinstance⟩ := Store.getDeployment_ok hread
  obtain ⟨row', hrow', hstatus⟩ := hrunning
  obtain rfl := Option.some.inj (hrow.symm.trans hrow')
  -- A row that is running was named by no write, so the tables hold it as they did at the start.
  have hsame : t.row? id = s.row? id := row?_of_commits htold fun c hc heq =>
    hsteady.spent c hc (heq ▸ ⟨row, hrow, hstatus⟩)
  refine ⟨id, row, mark, hname, ?_, hid, hstopping, hsame ▸ hrow, hstatus, ?_, ?_⟩
  · rw [commits_append]
    exact List.mem_append_right _ (List.mem_map_of_mem hmark)
  · rw [hinstance, ← Store.getInstance_congr htold.instances]
    exact hinst
  · rw [hinstance]
    exact Store.getInstance_id hinst

/-- What a history starts. -/
theorem History.atMostOnce (h : History named s n record t) : AtMostOnce named s record := by
  induction h with
  | opening => exact ⟨fun _ => Nat.zero_le 1, fun _ _ => rfl, .nil⟩
  | pass _ ih => exact ih
  | @work n record t u calls config hhistory hname houtline htells ih =>
    obtain ⟨htold, hsteady⟩ := hhistory.steady
    have heffect := houtline.effect htells
    have hfounded : EachAfter (Founded named s) (record ++ calls.map (Event.mk n)) := by
      refine ih.founded.append (.map fun past call later hsplit => ?_)
      have hmarked := houtline.starts htells past call later hsplit
      exact founded_of_markedStart htold hsteady hname hmarked
    refine ⟨fun id => ?_, fun id hid => ?_, hfounded⟩
    · rw [startsFor_append]
      by_cases hsame : named n = some id
      · obtain rfl := Option.some.inj (hname.symm.trans hsame)
        rw [if_pos hsame]
        rcases heffect.starts with hnone | ⟨hone, hrunning⟩
        · rw [hnone, List.append_nil]
          exact ih.once _
        · by_cases hbefore : startsFor named config.deploymentId record = []
          · rw [hbefore, List.nil_append]
            exact Nat.le_of_eq hone
          · exact absurd hrunning (running_of_startsFor hsteady ih.founded hbefore).1
      · rw [if_neg hsame, List.append_nil]
        exact ih.once id
    · by_cases hafter : startsFor named id (record ++ calls.map (Event.mk n)) = []
      · exact hafter
      · have hnext := (hhistory.work hname houtline htells).steady.2
        exact absurd (running_of_startsFor hnext hfounded hafter).2 hid

end History

/-! ### The theorem -/

/-- Whatever the tables, the waiting tasks, the remote service and the failures of the storage are,
any number of turns start at most one teardown for a deployment. -/
theorem turns_atMostOnce {ρ : Type} (env : Environment ρ) (client : WorkflowClient (StateM ρ))
    (queue : Queue) (store : Store) (outside : ρ) (n : Nat) :
    let runner := env.runner client.remote
    let final := ((runner.turns n).run (World.opening queue store outside)).2
    AtMostOnce queue.named? store final.record := by
  intro runner final
  exact (turns_history env client.remote_keepsTo queue store outside n).2.2.atMostOnce

end Teardown
