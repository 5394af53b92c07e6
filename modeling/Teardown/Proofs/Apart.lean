import Mathlib.Data.List.Induction
import Mathlib.Logic.Function.Basic
import Mathlib.Tactic.Lemma
import Teardown.Proofs.StopJob.Course
import Teardown.Proofs.Store.Own

/-!
# Jobs for different deployments

Jobs for different deployments share the tables and nothing else: each has a client, a clock, and
failures of the storage of its own.  `run` lets them move by a schedule, one answered question at a
time.  Whatever the schedule is, every job has the states, the result and the row that it has when
it works by itself, and executions one after the other do not depend on their order.

The reason is that a job is `Confined` to its deployment: what it does depends on the own part of the
tables alone, and it leaves the parts of other deployments as they are.  Both are kept by sequences
of operations, so they are proved once for each question of the job and hold of its moves and of its
execution.  By induction along the schedule, the job has at every moment the state and the part of
the tables that it has by itself after as many moves (`run_matches`).
-/

namespace Teardown.Apart

open StopJob (Config State Question Answer)

/-! ### Programs that are confined to a deployment -/

section Confined

variable {ρ α β : Type} {id : Int}

/-- Two worlds that are the same as far as the deployment is concerned. -/
structure Alike (id : Int) (v w : World ρ) : Prop where
  outside : v.outside = w.outside
  own : v.store.own id = w.store.own id

/-- A program that neither sees nor changes the rows of other deployments. -/
structure Confined (id : Int) (x : Play ρ α) : Prop where
  alike : ∀ {v w : World ρ}, Alike id v w →
    (x.run v).1 = (x.run w).1 ∧ Alike id (x.run v).2 (x.run w).2
  frame : ∀ (w : World ρ) {other : Int}, other ≠ id →
    (x.run w).2.store.own other = w.store.own other

lemma confined_pure (a : α) : Confined id (pure a : Play ρ α) where
  alike h := ⟨rfl, h⟩
  frame _ _ _ := rfl

/-- What happens outside does not touch the tables. -/
lemma confined_outside (x : StateM ρ α) : Confined id (Play.outside x) where
  alike {v w} h := by
    have hx : x v.outside = x w.outside := congrArg x h.outside
    refine ⟨?_, ?_, h.own⟩
    · exact congrArg (fun r : α × ρ => r.1) hx
    · exact congrArg (fun r : α × ρ => r.2) hx
  frame _ _ _ := rfl

/-- One confined program after the other. -/
lemma Confined.bind {x : Play ρ α} {f : α → Play ρ β} (hx : Confined id x)
    (hf : ∀ a, Confined id (f a)) : Confined id (x >>= f) where
  alike {v w} h := by
    obtain ⟨hsame, halike⟩ := hx.alike h
    rw [Play.run_bind, Play.run_bind, hsame]
    exact (hf (x.run w).1).alike halike
  frame w other hne := by
    rw [Play.run_bind, (hf (x.run w).1).frame _ hne, hx.frame w hne]

lemma Confined.map {x : Play ρ α} (hx : Confined id x) (f : α → β) : Confined id (f <$> x) where
  alike h := ⟨congrArg f (hx.alike h).1, (hx.alike h).2⟩
  frame w _ hne := hx.frame w hne

/-- Noting a call changes the record alone. -/
lemma Confined.noted {x : Play ρ α} (hx : Confined id x) (call : Store → Store → α → Call) :
    Confined id (Play.noted call x) where
  alike h := ⟨(hx.alike h).1, (hx.alike h).2.outside, (hx.alike h).2.own⟩
  frame w _ hne := hx.frame w hne

/-- A guarded operation fails for a reason that lies outside. -/
lemma Confined.guarded (env : Environment ρ) {x : Play ρ (Except Failure α)} (hx : Confined id x) :
    Confined id (env.guarded x) := by
  refine (confined_outside env.fault).bind fun fault => ?_
  cases fault with
  | some failure => exact confined_pure _
  | none => exact hx

/-- A question about the tables that the own part answers as well. -/
lemma confined_inspect {question : Store → Except Store.Error α}
    (hown : ∀ s : Store, question (s.own id) = question s) :
    Confined id (Store.inspect question : Play ρ (Except Failure α)) where
  alike {v w} h := by
    have hsame : question v.store = question w.store := by
      rw [← hown v.store, h.own, hown w.store]
    exact ⟨congrArg (Except.mapError Failure.store) hsame, h⟩
  frame _ _ _ := rfl

/-- A change of the tables that the own part undergoes as well, and other parts do not. -/
lemma confined_perform {operation : Store.Session α}
    (hown : ∀ s : Store, operation (s.own id) = ((operation s).1, (operation s).2.own id))
    (hother : ∀ (s : Store) {other : Int}, other ≠ id → (operation s).2.own other = s.own other) :
    Confined id (Store.perform operation : Play ρ (Except Failure α)) where
  alike {v w} h := by
    have hsame : ((operation v.store).1, (operation v.store).2.own id) =
        ((operation w.store).1, (operation w.store).2.own id) := by
      rw [← hown v.store, h.own, hown w.store]
    obtain ⟨hresult, hpart⟩ := Prod.mk.inj hsame
    exact ⟨congrArg (Except.mapError Failure.store) hresult, h.outside, hpart⟩
  frame w _ hne := hother w.store hne

end Confined

/-! ### A job is confined to its deployment -/

/-- A question that names no other deployment. -/
def OfDeployment (id : Int) : Question Seconds → Prop
  | .deployment i => i = id
  | .write i _ _ => i = id
  | _ => True

/-- A job asks about its own deployment only. -/
lemma ofDeployment_of_next {config : Config Seconds} {name : String} {s : State Seconds}
    {log : List Log.Entry} {q : Question Seconds} {resume : Answer q → State Seconds}
    (h : StopJob.next config name s = .ask log q resume) : OfDeployment config.deploymentId q := by
  obtain ⟨phase, timeline⟩ := s
  cases phase with
  | reading | locating | marking | starting | naming | recording | reconciling =>
    cases h
    trivial
  | waiting run phase =>
    cases h
    trivial
  | skipped | stopped | failed | raised => cases h

section Job

variable {ρ : Type} (env : Environment ρ) (client : WorkflowClient (StateM ρ))

/-- The answer to a question about a deployment is confined to it. -/
lemma confined_answer {id : Int} {q : Question Seconds} (hq : OfDeployment id q) :
    Confined id (StopJob.answer (env.surroundings client.remote) q) := by
  match q with
  | .deployment i =>
    obtain rfl : i = id := hq
    exact ((confined_inspect fun s => s.getDeployment_own i).guarded env).noted _
  | .location i => exact ((confined_inspect fun s => s.getInstance_own id i).guarded env).noted _
  | .write i status error =>
    obtain rfl : i = id := hq
    have hwrite : Confined i (do
        let result ← Store.perform (Store.setStatusAndError (← Play.outside env.stamp) i status error)
        return result.map fun _ => () : Play ρ (Except Failure Unit)) := by
      refine (confined_outside env.stamp).bind fun now => Confined.bind ?_ fun _ => confined_pure _
      exact confined_perform (fun s => s.setStatusAndError_own i now status error)
        fun s _ hne => s.own_setStatusAndError i now status error hne
    exact (hwrite.guarded env).noted _
  | .start inst => exact (confined_outside (client.start inst)).noted _
  | .source => exact (confined_outside client.source).noted _
  | .wait .clock => exact confined_outside env.clock.now
  | .wait (.poll run) =>
    exact ((confined_outside (client.poll run)).noted _).bind fun _ =>
      (confined_outside env.clock.now).bind fun _ => confined_pure _
  | .wait (.pause span) => exact confined_outside (env.clock.pause span)

/-- Writing the log does not touch the tables. -/
lemma confined_log {id : Int} (log : List Log.Entry) :
    Confined id (log.forM (env.surroundings client.remote).write) := by
  induction log with
  | nil => exact confined_pure _
  | cons e rest ih => exact (confined_outside (env.write e)).bind fun _ => ih

variable (config : Config Seconds) (name : String)

/-- A move of a job is confined to its deployment. -/
lemma confined_move (s : State Seconds) : Confined config.deploymentId
    (Procedure.move (StopJob.answer (env.surroundings client.remote))
      (env.surroundings client.remote).write (StopJob.next config name) s) := by
  cases hs : StopJob.next config name s with
  | done log result =>
    rw [Procedure.move_done _ _ hs]
    exact confined_pure s
  | ask log q resume =>
    rw [Procedure.move_ask _ _ hs]
    have hanswer := confined_answer env client (ofDeployment_of_next hs)
    exact (confined_log env client log).bind fun _ => hanswer.bind fun _ => confined_pure _

/-- A run of a job is confined to its deployment. -/
lemma confined_run (n : Nat) (s : State Seconds) : Confined config.deploymentId
    (Procedure.run (StopJob.answer (env.surroundings client.remote))
      (env.surroundings client.remote).write (StopJob.next config name) n s) := by
  induction n generalizing s with
  | zero => exact confined_pure none
  | succ n ih =>
    cases hs : StopJob.next config name s with
    | done log result =>
      rw [Procedure.run_done _ _ hs]
      exact (confined_log env client log).bind fun _ => confined_pure _
    | ask log q resume =>
      rw [Procedure.run_succ _ _ hs]
      exact (confined_move env client config name s).bind ih

/-- An execution of a job is confined to its deployment. -/
lemma confined_execute : Confined config.deploymentId
    (StopJob.execute (env.surroundings client.remote) config name) := by
  by_cases hname : Text.strip name = StopJob.name
  · rw [StopJob.execute_of_name _ _ hname]
    exact (confined_run env client config _ _ _).map _
  · rw [StopJob.execute_of_ne_name _ _ hname]
    exact confined_pure _

end Job

/-! ### Jobs by themselves and jobs in common tables -/

/-- A job with the surroundings that it has for itself. -/
structure Post (ρ : Type) where
  env : Environment ρ
  client : WorkflowClient (StateM ρ)
  config : Config Seconds

namespace Post

variable {ρ : Type} (post : Post ρ)

/-- The deployment of the job. -/
def id : Int := post.config.deploymentId

/-- What answers the questions of the job. -/
def surroundings : StopJob.Surroundings (Play ρ) Seconds :=
  post.env.surroundings post.client.remote

/-- What the job does next in a state. -/
def next (s : State Seconds) :
    Move (Question Seconds) Answer (State Seconds) (Except Failure JobResult) :=
  StopJob.next post.config StopJob.name s

/-- The next move of the job. -/
def move (s : State Seconds) : Play ρ (State Seconds) :=
  Procedure.move (StopJob.answer post.surroundings) post.surroundings.write post.next s

/-- The first moves of the job when it works by itself. -/
def moves (n : Nat) : Play ρ (State Seconds) :=
  Procedure.moves (StopJob.answer post.surroundings) post.surroundings.write post.next n .initial

/-- The run of the job when it works by itself, for at most some moves. -/
def run (n : Nat) : Play ρ (Option (Except Failure JobResult)) :=
  Procedure.run (StopJob.answer post.surroundings) post.surroundings.write post.next n .initial

/-- The execution of the job when it works by itself. -/
def execution : Play ρ JobEnd :=
  StopJob.execute post.surroundings post.config StopJob.name

lemma confined_move (s : State Seconds) : Confined post.id (post.move s) :=
  Apart.confined_move post.env post.client post.config StopJob.name s

lemma confined_execution : Confined post.id post.execution :=
  confined_execute post.env post.client post.config StopJob.name

/-- The end that the job has come to in a state. -/
def ending (s : State Seconds) : JobEnd :=
  match post.next s with
  | .done _ result => StopJob.endOf (some result)
  | .ask _ _ _ => .unfinished

/-- The job has come to an end in a state. -/
def Over (s : State Seconds) : Prop :=
  ∃ log result, post.next s = .done log result

end Post

/-- How far a job has come, and what is outside for it. -/
structure Progress (ρ : Type) where
  state : State Seconds
  outside : ρ

/-- Some jobs and the tables that they have in common. -/
structure Team (ι ρ : Type) where
  store : Store
  progress : ι → Progress ρ

section Team

variable {ι ρ : Type} [DecidableEq ι] (posts : ι → Post ρ) (queue : Queue)

/-- Nobody has made a move. -/
def opening (store : Store) (outside : ι → ρ) : Team ι ρ :=
  ⟨store, fun j => ⟨.initial, outside j⟩⟩

/-- The next move of one job: it sees its own outside and the common tables. -/
def step (team : Team ι ρ) (j : ι) : Team ι ρ :=
  let moved := ((posts j).move (team.progress j).state).run
    (World.opening queue team.store (team.progress j).outside)
  ⟨moved.2.store, Function.update team.progress j ⟨moved.1, moved.2.outside⟩⟩

/-- The moves of a schedule. -/
def run (schedule : List ι) (team : Team ι ρ) : Team ι ρ :=
  schedule.foldl (step posts queue) team

/-- A job stands in the team as it stands by itself: with the same state, the same outside and the
same part of the tables. -/
structure Matches (j : ι) (team : Team ι ρ) (alone : State Seconds × World ρ) : Prop where
  state : (team.progress j).state = alone.1
  outside : (team.progress j).outside = alone.2.outside
  own : team.store.own (posts j).id = alone.2.store.own (posts j).id

variable {posts}

/-- A job that moves in the team makes the move that it makes by itself. -/
lemma Matches.move {j : ι} {team : Team ι ρ} {alone : State Seconds × World ρ}
    (h : Matches posts j team alone) :
    Matches posts j (step posts queue team j) (((posts j).move alone.1).run alone.2) := by
  have halike : Alike (posts j).id (World.opening queue team.store (team.progress j).outside)
      alone.2 := ⟨h.outside, h.own⟩
  obtain ⟨hstate, hafter⟩ := ((posts j).confined_move (team.progress j).state).alike halike
  have hself : (step posts queue team j).progress j = ⟨_, _⟩ :=
    Function.update_self j _ team.progress
  rw [← h.state]
  refine ⟨?_, ?_, hafter.own⟩
  · rw [hself]
    exact hstate
  · rw [hself]
    exact hafter.outside

/-- A move of a job for another deployment changes nothing for this one. -/
lemma Matches.frame {i j : ι} (hne : i ≠ j) (hid : (posts j).id ≠ (posts i).id) {team : Team ι ρ}
    {alone : State Seconds × World ρ} (h : Matches posts j team alone) :
    Matches posts j (step posts queue team i) alone := by
  have hother : (step posts queue team i).progress j = team.progress j :=
    Function.update_of_ne hne.symm _ team.progress
  have hframe := ((posts i).confined_move (team.progress i).state).frame
    (World.opening queue team.store (team.progress i).outside) hid
  exact ⟨hother ▸ h.state, hother ▸ h.outside, hframe.trans h.own⟩

/-- After any schedule, a job stands where it stands by itself after as many moves. -/
theorem run_matches (hdistinct : ∀ i j, i ≠ j → (posts i).id ≠ (posts j).id) (store : Store)
    (outside : ι → ρ) (schedule : List ι) (j : ι) :
    Matches posts j (run posts queue schedule (opening store outside))
      (((posts j).moves (schedule.count j)).run (World.opening queue store (outside j))) := by
  induction schedule using List.reverseRecOn with
  | nil => exact ⟨rfl, rfl, rfl⟩
  | append_singleton schedule i ih =>
    have hlast : run posts queue (schedule ++ [i]) (opening store outside) =
        step posts queue (run posts queue schedule (opening store outside)) i := by
      unfold run
      rw [List.foldl_append]
      rfl
    rw [hlast, List.count_append]
    by_cases hij : i = j
    · obtain rfl := hij
      rw [List.count_singleton_self]
      exact ih.move queue
    · rw [List.count_singleton, beq_false_of_ne hij]
      exact ih.frame queue hij (hdistinct j i (Ne.symm hij))

end Team

/-! ### The end of a job -/

namespace Post

variable {ρ : Type} {post : Post ρ} {w : World ρ}

/-- The end of a job that is over is no longer open. -/
lemma ending_ne_unfinished_iff {s : State Seconds} : post.ending s ≠ .unfinished ↔ post.Over s := by
  unfold ending Over
  cases hs : post.next s with
  | done log result =>
    refine iff_of_true ?_ ⟨log, result, rfl⟩
    cases result with
    | ok _ => exact JobEnd.noConfusion
    | error _ => exact JobEnd.noConfusion
  | ask log q resume =>
    refine iff_of_false (fun h => h rfl) ?_
    rintro ⟨_, _, h⟩
    cases h

/-- A job that is over does not move any more. -/
lemma moves_of_over {n : Nat} (hover : post.Over ((post.moves n).run w).1) (k : Nat) :
    (post.moves (n + k)).run w = (post.moves n).run w := by
  obtain ⟨log, result, hdone⟩ := hover
  induction k with
  | zero => rfl
  | succ k ih =>
    have hsucc : (post.moves (n + (k + 1))).run w =
        (post.move ((post.moves (n + k)).run w).1).run ((post.moves (n + k)).run w).2 := rfl
    have hstays : post.move ((post.moves n).run w).1 = pure ((post.moves n).run w).1 :=
      Procedure.move_done _ _ hdone
    rw [hsucc, ih, hstays]
    rfl

/-- The execution is the run of the job within its horizon. -/
lemma execution_eq : post.execution = StopJob.endOf <$> post.run post.env.horizon :=
  StopJob.execute_of_name _ _ (by decide)

/-- A run leaves the tables as its moves do. -/
lemma run_store (n : Nat) : ((post.run n).run w).2.store = ((post.moves n).run w).2.store :=
  @Procedure.view_run (World ρ) Store _ _ _ _ (StopJob.answer post.surroundings)
    post.surroundings.write post.next (fun v => v.store) (fun _ _ => rfl) n State.initial w

/-- A run has a result if its moves, all but the last, lead to it. -/
lemma run_eq_some_iff (n : Nat) (result : Except Failure JobResult) :
    ((post.run (n + 1)).run w).1 = some result ↔
      ∃ log, post.next ((post.moves n).run w).1 = .done log result :=
  Procedure.run_eq_some_iff n _ w result

/-- An execution with moves to spare ends as its moves do. -/
lemma execution_of_over {n : Nat} (hn : n < post.env.horizon)
    (hover : post.Over ((post.moves n).run w).1) :
    (post.execution.run w).1 = post.ending ((post.moves n).run w).1 ∧
      (post.execution.run w).2.store = ((post.moves n).run w).2.store := by
  obtain ⟨k, hhorizon⟩ : ∃ k, post.env.horizon = n + k + 1 := ⟨post.env.horizon - n - 1, by omega⟩
  have hmoves := moves_of_over hover k
  have hmoves' : (post.moves (n + k + 1)).run w = (post.moves n).run w := moves_of_over hover (k + 1)
  obtain ⟨log, result, hdone⟩ := hover
  have hrun : ((post.run (n + k + 1)).run w).1 = some result :=
    (run_eq_some_iff (n + k) result).mpr ⟨log, by rw [hmoves, hdone]⟩
  rw [execution_eq, hhorizon, Play.run_map]
  refine ⟨?_, ?_⟩
  · unfold ending
    rw [hrun, hdone]
  · rw [run_store, hmoves']

/-- An execution that ends has come to its end within the horizon. -/
lemma exists_over_of_execution (h : (post.execution.run w).1 ≠ .unfinished) :
    ∃ n < post.env.horizon, post.Over ((post.moves n).run w).1 := by
  rw [execution_eq, Play.run_map] at h
  cases hhorizon : post.env.horizon with
  | zero =>
    rw [hhorizon] at h
    exact absurd rfl h
  | succ n =>
    rw [hhorizon] at h
    refine ⟨n, Nat.lt_succ_self n, ?_⟩
    cases hrun : ((post.run (n + 1)).run w).1 with
    | none =>
      rw [hrun] at h
      exact absurd rfl h
    | some result =>
      obtain ⟨log, hdone⟩ := (run_eq_some_iff n result).mp hrun
      exact ⟨log, result, hdone⟩

end Post

/-! ### The theorem -/

section Theorem

variable {ι ρ : Type} {posts : ι → Post ρ}

/-- A job that has ended in the team, and by itself, has ended in the same way. -/
lemma Matches.ended {j : ι} {team : Team ι ρ} {w : World ρ} {c n : Nat}
    (h : Matches posts j team (((posts j).moves c).run w)) (hn : n < (posts j).env.horizon)
    (hc : n ≤ c) (hover : (posts j).Over (((posts j).moves n).run w).1) :
    (posts j).ending (team.progress j).state = ((posts j).execution.run w).1 ∧
      team.store.row? (posts j).id = ((posts j).execution.run w).2.store.row? (posts j).id := by
  obtain ⟨k, rfl⟩ := Nat.exists_eq_add_of_le hc
  obtain ⟨hend, hstore⟩ := Post.execution_of_over hn hover
  rw [Post.moves_of_over hover k] at h
  rw [hend, hstore, h.state]
  exact ⟨rfl, by rw [← Store.row?_own, h.own, Store.row?_own]⟩

/-- Jobs for different deployments do not influence each other.

Let them move in any order.  At every moment, a job is in the state, with the timeline, in which it
is by itself after as many moves.  A job that has ended has the end, with its result or its
exception, and the row that its execution has by itself, if that is given enough moves; and a job
whose execution ends by itself does so in every schedule that gives it enough moves.

Executions one after the other end as each of them by itself, so their order is of no consequence
for the rows. -/
theorem apart_independent [DecidableEq ι] (posts : ι → Post ρ)
    (hdistinct : ∀ i j, i ≠ j → (posts i).id ≠ (posts j).id)
    (queue : Queue) (store : Store) (outside : ι → ρ) :
    let start j := World.opening queue store (outside j)
    let alone j := (posts j).execution.run (start j)
    let inTurn i j := (posts j).execution.run (World.opening queue (alone i).2.store (outside j))
    (∀ schedule j,
      let team := run posts queue schedule (opening store outside)
      (team.progress j).state = (((posts j).moves (schedule.count j)).run (start j)).1 ∧
        (schedule.count j < (posts j).env.horizon ∧
              (posts j).ending (team.progress j).state ≠ .unfinished ∨
            (posts j).env.horizon ≤ schedule.count j ∧ (alone j).1 ≠ .unfinished →
          (posts j).ending (team.progress j).state = (alone j).1 ∧
            team.store.row? (posts j).id = (alone j).2.store.row? (posts j).id)) ∧
    ∀ i j, i ≠ j →
      (inTurn i j).1 = (alone j).1 ∧
        (inTurn i j).2.store.row? (posts i).id = (alone i).2.store.row? (posts i).id ∧
        (inTurn i j).2.store.row? (posts j).id = (alone j).2.store.row? (posts j).id ∧
        ∀ id ∈ [(posts i).id, (posts j).id],
          (inTurn i j).2.store.row? id = (inTurn j i).2.store.row? id := by
  intro start alone inTurn
  have hlast : ∀ i j, i ≠ j → (inTurn i j).1 = (alone j).1 ∧
      (inTurn i j).2.store.row? (posts j).id = (alone j).2.store.row? (posts j).id := by
    intro i j hij
    have hframe := (posts i).confined_execution.frame (start i) (hdistinct j i hij.symm)
    obtain ⟨hend, hafter⟩ := (posts j).confined_execution.alike
      (v := World.opening queue (alone i).2.store (outside j)) (w := start j) ⟨rfl, hframe⟩
    refine ⟨hend, ?_⟩
    rw [← Store.row?_own, hafter.own, Store.row?_own]
  have hfirst : ∀ i j, i ≠ j →
      (inTurn i j).2.store.row? (posts i).id = (alone i).2.store.row? (posts i).id := by
    intro i j hij
    have hframe := (posts j).confined_execution.frame
      (World.opening queue (alone i).2.store (outside j)) (hdistinct i j hij)
    rw [← Store.row?_own, hframe, Store.row?_own]
    rfl
  refine ⟨fun schedule j => ?_, fun i j hij => ?_⟩
  · intro team
    have hmatches := run_matches queue hdistinct store outside schedule j
    refine ⟨hmatches.state, fun hends => ?_⟩
    rcases hends with ⟨hcount, hends⟩ | ⟨hcount, hends⟩
    · rw [hmatches.state, Post.ending_ne_unfinished_iff] at hends
      exact hmatches.ended hcount (Nat.le_refl _) hends
    · obtain ⟨n, hn, hover⟩ := Post.exists_over_of_execution hends
      exact hmatches.ended hn (Nat.le_trans (Nat.le_of_lt hn) hcount) hover
  · obtain ⟨hend, hrow⟩ := hlast i j hij
    refine ⟨hend, hfirst i j hij, hrow, fun id hid => ?_⟩
    rcases List.mem_cons.mp hid with rfl | hid
    · rw [hfirst i j hij, (hlast j i hij.symm).2]
    · rw [List.mem_singleton.mp hid, hrow, hfirst j i hij.symm]

end Theorem

/-- Two running deployments. -/
def twoRunning : Store where
  instances := some [⟨1, "one", "2020-01-02 03:04:05"⟩, ⟨2, "two", "2020-01-02 03:04:05"⟩]
  deployments := some
    [⟨1, 1, "running", none, "2020-01-02 03:04:05", "2020-01-02 03:04:05"⟩,
      ⟨2, 2, "running", none, "2020-01-02 03:04:05", "2020-01-02 03:04:05"⟩]

/-- Two jobs that count their questions outside: the teardown of the first succeeds at a later poll,
and that of the second is not started. -/
def pair (first : Bool) : Post Nat where
  env :=
    { fault := pure none
      stamp := fun n => ("2020-01-02 03:04:" ++ toString n, n + 1)
      clock := ⟨fun n => (.whole n, n + 1), fun _ => pure ()⟩
      newId := pure ""
      write := fun _ => pure ()
      horizon := 20 }
  client :=
    { source := pure (.ok "pair")
      start := fun _ => pure
        (if first then .ok { id := .number 7 } else .error (.refused (.unsupportedJob "none")))
      poll := fun _ n => (.ok (if n < 16 then .pending else .succeeded), n + 1) }
  config := ⟨if first then 1 else 2, ⟨.whole 100, .whole 1⟩⟩

/-- Both jobs move in turns. -/
def turns : List Bool :=
  (List.replicate 20 [true, false]).flatten

/-- Both jobs end as they do by themselves: one row is `stopped`, and the other one `failed`. -/
theorem pair_independent :
    let alone j := (pair j).execution.run (World.opening { history := 1 } twoRunning 10)
    let team := run pair { history := 1 } turns (opening twoRunning fun _ => 10)
    (∀ j, (pair j).ending (team.progress j).state = (alone j).1 ∧
      team.store.row? (pair j).id = (alone j).2.store.row? (pair j).id) ∧
    (team.store.row? 1).map (·.status) = some "stopped" ∧
    (team.store.row? 2).map (·.status) = some "failed" := by
  intro alone team
  have hdistinct : ∀ i j, i ≠ j → (pair i).id ≠ (pair j).id := by decide
  have hturns : ∀ j, (pair j).env.horizon ≤ turns.count j := by decide
  have hends : ∀ j, (StopJob.outcomeOf (alone j).1).isSome = true := by decide +kernel
  refine ⟨fun j => ?_, by decide +kernel, by decide +kernel⟩
  have hend : (alone j).1 ≠ .unfinished := by
    intro hopen
    have hsome := hends j
    rw [hopen] at hsome
    cases hsome
  obtain ⟨hschedules, -⟩ :=
    apart_independent pair hdistinct { history := 1 } twoRunning fun _ => 10
  exact (hschedules turns j).2 (.inr ⟨hturns j, hend⟩)

end Teardown.Apart
