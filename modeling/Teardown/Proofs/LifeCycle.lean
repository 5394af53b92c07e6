import Mathlib.Tactic.Lemma
import Teardown.Proofs.Turns

/-!
# The life cycle of deployments

Over any number of turns, a deployment goes from `running` to `stopping`, and from there to
`stopped` or `failed`; the last passage belongs to the turn that made the first.  `Passage` lists
the passages with the error texts that are stored beside them, `Lawful` says what is demanded of one
committed write after the writes before it, and `LifeCycle` adds what follows for the tables.

The invariant that carries the induction over turns is `Steady`: the writes so far are lawful, and
the rows that they name are not running.  A row that is running now has therefore been named by no
write, so it was running at the start, and that makes the mark of the next turn lawful.
`Steady.commit` adds one write; a turn adds at most two.
-/

namespace Teardown

/-! ### Passages -/

/-- The passages of the life cycle, with the error text that is stored beside the new status. -/
inductive Passage : Status → Status → Option String → Prop where
  | mark : Passage .running .stopping none
  | finish : Passage .stopping .stopped none
  | fail (cause : String) :
      Passage .stopping .failed (some ("failed to stop deployment: " ++ cause))

/-- A write that takes the row of its deployment from a status along a passage.  Nothing else
changes but the time stamp of the row. -/
structure Write.Passes (w : Write) (old : Status) : Prop where
  passage : Passage old w.status w.error
  row : ∃ row now, w.before.row? w.id = some row ∧ row.status = old.text ∧
    w.after.row? w.id = some { row with status := w.status.text, error := w.error, updated := now }
  others : ∀ id, id ≠ w.id → w.after.row? id = w.before.row? id
  instances : w.after.instances = w.before.instances

/-- The deployment has a row with the status `running`. -/
def Store.Running (s : Store) (id : Int) : Prop :=
  ∃ row, s.row? id = some row ∧ row.status = Status.running.text

/-- The row of the deployment, if there is one, holds an error text only if its status is
`failed`. -/
def Store.Clean (s : Store) (id : Int) : Prop :=
  ∀ row, s.row? id = some row → row.error ≠ none → row.status = Status.failed.text

/-! ### Lawful writes -/

/-- A write committed in turn `k`, after the writes of the `past`.  The task of the turn names the
deployment, which was running at the start; the write is a passage of the life cycle; and a passage
from `stopping` comes after the turn itself has stored `stopping`. -/
structure Lawful (named : Nat → Option Int) (s : Store) (past : List (Nat × Write))
    (c : Nat × Write) : Prop where
  named : named c.1 = some c.2.id
  running : s.Running c.2.id
  passes : ∃ old, c.2.Passes old ∧ (old = .stopping →
    ∃ mark, (c.1, mark) ∈ past ∧ mark.id = c.2.id ∧ mark.Passes .running)

/-- The life cycle over the first `n` turns: what was committed, and the tables `t` that the tables
`s` have become. -/
structure LifeCycle (named : Nat → Option Int) (s : Store) (n : Nat) (record : List Event)
    (t : Store) : Prop where
  /-- The tables change by the committed writes of the record and by nothing else. -/
  told : Tells s (record.map Event.call) t
  lawful : EachAfter (Lawful named s) (commits record)
  /-- A row that was not running at the start is as it was. -/
  settled : ∀ id, ¬ s.Running id → t.row? id = s.row? id
  /-- A row that no task names is as it was. -/
  unnamed : ∀ id, (∀ k < n, named k ≠ some id) → t.row? id = s.row? id
  instances : t.instances = s.instances
  clean : ∀ id, s.Clean id → t.Clean id

/-! ### The invariant -/

/-- The committed writes `cs` of the first `n` turns are lawful, and in the tables `t` that they
leave no deployment that they name is running. -/
structure Steady (named : Nat → Option Int) (s : Store) (n : Nat) (cs : List (Nat × Write))
    (t : Store) : Prop where
  lawful : EachAfter (Lawful named s) cs
  turns : ∀ c ∈ cs, c.1 < n
  spent : ∀ c ∈ cs, ¬ t.Running c.2.id
  clean : ∀ id, s.Clean id → t.Clean id

section Steady

variable {named : Nat → Option Int} {s t u : Store} {n : Nat} {cs : List (Nat × Write)}

/-- A committed write along a passage. -/
lemma Write.passes_of_commits {w : Write} {old : Status} (passage : Passage old w.status w.error)
    (committed : Store.Commits w.id w.status w.error w.before w.after)
    (hold : ∀ row, w.before.row? w.id = some row → row.status = old.text) : w.Passes old := by
  obtain ⟨row, now, hrow, hafter⟩ := committed.rows
  exact ⟨passage, ⟨row, now, hrow, hold row hrow, hafter⟩,
    fun _ hne => committed.row?_of_ne hne, committed.instances⟩

/-- A passage leaves an error text beside `failed` only. -/
lemma Passage.error_eq_none {old new : Status} {error : Option String}
    (h : Passage old new error) (hne : new ≠ .failed) : error = none := by
  cases h with
  | mark | finish => rfl
  | fail cause => exact absurd rfl hne

/-- A passage keeps rows clean. -/
lemma Write.Passes.clean {w : Write} {old : Status} (h : w.Passes old) {id : Int}
    (hclean : w.before.Clean id) : w.after.Clean id := by
  intro row hrow herror
  by_cases hid : id = w.id
  · obtain ⟨_, _, _, _, hafter⟩ := h.row
    rw [hid, hafter] at hrow
    obtain rfl := Option.some.inj hrow
    by_cases hfailed : w.status = .failed
    · exact congrArg Status.text hfailed
    · exact absurd (h.passage.error_eq_none hfailed) herror
  · rw [h.others id hid] at hrow
    exact hclean row hrow herror

/-- No passage leads to `running`. -/
lemma Write.Passes.not_running {w : Write} {old : Status} (h : w.Passes old) :
    ¬ w.after.Running w.id := by
  rintro ⟨row, hrow, hstatus⟩
  obtain ⟨_, _, _, _, hafter⟩ := h.row
  rw [hafter] at hrow
  obtain rfl := Option.some.inj hrow
  have hpassage := h.passage
  rw [Status.eq_of_text_eq hstatus] at hpassage
  cases hpassage

/-- If all writes are lawful, a row that was not running at the start is as it was. -/
lemma row?_of_not_running {record : List Event} (htold : Tells s (record.map Event.call) t)
    (hlawful : EachAfter (Lawful named s) (commits record)) {id : Int} (hid : ¬ s.Running id) :
    t.row? id = s.row? id := by
  refine row?_of_commits htold fun c hc heq => hid ?_
  obtain ⟨past, hpast, _⟩ := hlawful.exists_of_mem hc
  exact heq ▸ hpast.running

/-- If all writes are lawful, a row that is running was running at the start. -/
lemma running_of_running {record : List Event} (htold : Tells s (record.map Event.call) t)
    (hlawful : EachAfter (Lawful named s) (commits record)) {id : Int} (hid : t.Running id) :
    s.Running id := by
  by_cases hs : s.Running id
  · exact hs
  · obtain ⟨row, hrow, hstatus⟩ := hid
    exact ⟨row, row?_of_not_running htold hlawful hs ▸ hrow, hstatus⟩

/-- Nothing is asked of a turn that commits nothing. -/
lemma Steady.pass (h : Steady named s n cs t) : Steady named s (n + 1) cs t :=
  { h with turns := fun c hc => Nat.lt_succ_of_lt (h.turns c hc) }

/-- One more lawful write. -/
lemma Steady.commit {k : Nat} {w : Write} (h : Steady named s n cs w.before) (hk : k < n)
    (hlawful : Lawful named s cs (k, w)) : Steady named s n (cs ++ [(k, w)]) w.after := by
  obtain ⟨old, hpasses, _⟩ := hlawful.passes
  refine ⟨h.lawful.snoc hlawful, ?_, ?_, fun id hid => hpasses.clean (h.clean id hid)⟩
  · intro c hc
    rcases List.mem_append.mp hc with hold | hnew
    · exact h.turns c hold
    · rw [List.mem_singleton.mp hnew]
      exact hk
  · intro c hc
    by_cases hid : c.2.id = w.id
    · exact hid ▸ hpasses.not_running
    · rcases List.mem_append.mp hc with hold | hnew
      · rintro ⟨row, hrow, hstatus⟩
        exact h.spent c hold ⟨row, hpasses.others _ hid ▸ hrow, hstatus⟩
      · exact absurd (congrArg (fun c => c.2.id) (List.mem_singleton.mp hnew)) hid

/-- A deployment that a job finds running has a row that is running. -/
lemma StopJob.Locates.running {id : Int} {inst : Instance} (h : StopJob.Locates s id inst) :
    s.Running id := by
  obtain ⟨d, hread, hrunning, _⟩ := h
  obtain ⟨row, hrow, hstatus, _⟩ := Store.getDeployment_ok hread
  refine ⟨row, hrow, hstatus.trans ?_⟩
  cases hd : d.status with
  | running => rfl
  | created | pending | stopping | stopped | failed =>
    rw [hd] at hrunning
    cases hrunning

/-- The mark of a job is a passage from `running`. -/
lemma StopJob.Locates.passes {id : Int} {inst : Instance} (h : StopJob.Locates s id inst)
    (mark : Store.Commits id .stopping none s t) :
    Write.Passes ⟨id, .stopping, none, s, t⟩ .running := by
  obtain ⟨row, hrow, hstatus⟩ := h.running
  refine Write.passes_of_commits .mark mark fun row' hrow' => ?_
  rw [hrow] at hrow'
  exact Option.some.inj hrow' ▸ hstatus

/-- The terminal write of a job is a passage from `stopping`. -/
lemma StopJob.Terminal.passes {id : Int} {status : Status} {error : Option String}
    (terminal : StopJob.Terminal status error) (mark : Store.Commits id .stopping none s t)
    (committed : Store.Commits id status error t u) :
    Write.Passes ⟨id, status, error, t, u⟩ .stopping := by
  have hpassage : Passage .stopping status error := by
    cases terminal with
    | stopped => exact .finish
    | failed cause => exact .fail cause.message
  obtain ⟨_, _, _, hafter⟩ := mark.rows
  refine Write.passes_of_commits hpassage committed fun row' hrow' => ?_
  rw [hafter] at hrow'
  exact Option.some.inj hrow' ▸ rfl

/-- The writes of one turn, for a deployment that runs now only if it ran at the start. -/
theorem Steady.effect {id : Int} {writes : List Write} {starts : List Instance}
    (h : Steady named s n cs t) (hname : named n = some id)
    (hrunning : t.Running id → s.Running id)
    (heffect : StopJob.Effect id t writes starts u) :
    Steady named s (n + 1) (cs ++ writes.map (Prod.mk n)) u := by
  have hmark : ∀ {inst v}, StopJob.Locates t id inst → Store.Commits id .stopping none t v →
      Steady named s (n + 1) (cs ++ [(n, ⟨id, .stopping, none, t, v⟩)]) v := by
    intro inst v located mark
    refine h.pass.commit (Nat.lt_succ_self n) ⟨hname, hrunning located.running, ?_⟩
    exact ⟨.running, located.passes mark, fun heq => nomatch heq⟩
  cases heffect with
  | none =>
    rw [List.map_nil, List.append_nil]
    exact h.pass
  | marked located mark | started located mark => exact hmark located mark
  | @ended inst v _ status error located mark terminal committed =>
    have hsplit : cs ++ [(⟨id, .stopping, none, t, v⟩ : Write), ⟨id, status, error, v, u⟩].map
        (Prod.mk n) = cs ++ [(n, ⟨id, .stopping, none, t, v⟩)] ++
          [(n, ⟨id, status, error, v, u⟩)] := by
      simp
    rw [hsplit]
    refine (hmark located mark).commit (Nat.lt_succ_self n)
      ⟨hname, hrunning located.running, .stopping, terminal.passes mark committed, fun _ => ?_⟩
    exact ⟨_, List.mem_append_right _ (List.mem_singleton.mpr rfl), rfl, located.passes mark⟩

/-- A history is steady, and its record tells how the tables went. -/
theorem History.steady {record : List Event} (h : History named s n record t) :
    Tells s (record.map Event.call) t ∧ Steady named s n (commits record) t := by
  induction h with
  | opening =>
    refine ⟨rfl, .nil, fun c hc => ?_, fun c hc => ?_, fun _ h => h⟩
    · cases hc
    · cases hc
  | pass _ ih => exact ⟨ih.1, ih.2.pass⟩
  | @work n record t u calls config _ hname houtline htells ih =>
    refine ⟨?_, ?_⟩
    · rw [List.map_append, List.map_map]
      refine tells_append.mpr ⟨t, ih.1, ?_⟩
      exact (List.map_id calls).symm ▸ htells
    · rw [commits_append]
      exact ih.2.effect hname (running_of_running ih.1 ih.2.lawful) (houtline.effect htells)

end Steady

/-! ### The theorem -/

/-- Whatever the tables, the waiting tasks, the remote service and the failures of the storage are,
any number of turns keep to the life cycle. -/
theorem turns_lifeCycle {ρ : Type} (env : Environment ρ) (client : WorkflowClient (StateM ρ))
    (queue : Queue) (store : Store) (outside : ρ) (n : Nat) :
    let runner := env.runner client.remote
    let final := ((runner.turns n).run (World.opening queue store outside)).2
    LifeCycle queue.named? store n final.record final.store := by
  intro runner final
  obtain ⟨_, _, hhistory⟩ := turns_history env client.remote_keepsTo queue store outside n
  obtain ⟨htold, hsteady⟩ := hhistory.steady
  refine ⟨htold, hsteady.lawful, fun id hid => row?_of_not_running htold hsteady.lawful hid,
    fun id hid => ?_, htold.instances, hsteady.clean⟩
  refine row?_of_commits htold fun c hc heq => hid c.1 (hsteady.turns c hc) ?_
  obtain ⟨past, hlawful, _⟩ := hsteady.lawful.exists_of_mem hc
  exact heq ▸ hlawful.named

end Teardown
