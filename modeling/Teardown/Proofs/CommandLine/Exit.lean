import Mathlib.Tactic.Lemma
import Teardown.Proofs.StopJob.Ending
import Teardown.Proofs.Task.Admission
import Teardown.Proofs.Task.Drain
import Teardown.Proofs.Turns

/-!
# The exit of a command

A command that stops a deployment ends with a code, or it raises a failure.  `Exit.Tells` is what
each exit stands for in the tables, in the calls of the job and in what follows them, and `stop_tells`
says that no exit is reached in any other way.

The command submits its task, drains the queue, closes the connection and reports, and the proof
takes these parts one after the other.  The connection is closed by beginning the next turn, so that
the turn of a call tells how often the connection was closed before it.
-/

namespace Teardown

variable {ρ : Type}

/-! ### Draining a queue with one task -/

namespace Runner

variable {env : Environment ρ} {client : WorkflowClient (Play ρ)}

/-- Draining does not end within one task. -/
lemma run_drain_short {w v : World ρ} {outcome : Outcome}
    (hnext : (env.runner client).runNext.run w = (.finished outcome, v)) {horizon : Nat}
    (hshort : horizon < 2) : (((env.runner client).drain horizon).run w).1 = .unfinished := by
  interval_cases horizon
  · rfl
  · unfold drain
    rw [Play.run_bind, hnext]
    rfl

/-- Draining does not end if the first task does not. -/
lemma run_drain_unfinished {w v : World ρ}
    (hnext : (env.runner client).runNext.run w = (.unfinished, v)) (horizon : Nat) :
    (((env.runner client).drain horizon).run w).1 = .unfinished := by
  cases horizon with
  | zero => rfl
  | succ k =>
    unfold drain
    rw [Play.run_bind, hnext]
    rfl

/-- Draining a queue with one task runs the job of this task and finishes the task, unless the job or
the draining does not end. -/
lemma run_drain {e : Envelope} {taskType : Option String} {job : Play ρ JobEnd}
    (htakes : (env.runner client).Takes e taskType job) (hdocile : Docile job) {w : World ρ} {id : String}
    (hpending : w.queue.pending = [⟨id, e.text⟩]) (horizon : Nat) :
    ∃ v : World ρ, v.store = w.store ∧ v.turn = w.turn ∧ v.record = w.record ∧
      ((((env.runner client).drain horizon).run w).1 = .unfinished ∧
          ((job.run v).1 = .unfinished ∨ horizon < 2) ∨
        ∃ reported u, Reported (job.run v).1 reported ∧
          World.trace u = ([], (job.run v).2.store, (job.run v).2.turn, (job.run v).2.record) ∧
          ((env.runner client).drain horizon).run w =
            (.drained [⟨id, taskType, reported⟩], u)) := by
  obtain ⟨v, hv⟩ : ∃ v : World ρ, v = { w with queue :=
      { w.queue with pending := [], inFlight := w.queue.inFlight ++ [⟨id, e.text⟩] } } := ⟨_, rfl⟩
  refine ⟨v, by rw [hv], by rw [hv], by rw [hv], ?_⟩
  obtain ⟨hqueue, handled⟩ := hdocile v
  have hnext : (env.runner client).runNext.run w =
      ((env.runner client).settle ⟨id, e.text⟩ ⟨taskType, (job.run v).1⟩).run
        (job.run v).2 := by
    have hruns := @runsNext_of_execute _ (env.runner client) ⟨id, e.text⟩ _ _ htakes.executed
    rw [hruns w [] hpending, hv]
    rfl
  by_cases hended : (job.run v).1 = .unfinished
  · rw [hended] at hnext
    exact .inl ⟨run_drain_unfinished hnext horizon, .inl hended⟩
  · obtain ⟨reported, hreported⟩ := exists_reported hended handled
    have hflying : id ∈ Queue.ids (job.run v).2.queue.inFlight := by
      rw [hqueue, hv]
      simp [Queue.ids]
    obtain ⟨u, hsettle, _⟩ := @run_settle _ (env.runner client) (job.run v).2 ⟨id, e.text⟩
      (fun _ _ => rfl) taskType _ _ hreported hflying
    have hfinished := hnext.trans hsettle
    have htrace := settle_bookkeeping env client ⟨id, e.text⟩ ⟨taskType, (job.run v).1⟩
      (job.run v).2
    have hdone : (job.run v).2.trace =
        ([], (job.run v).2.store, (job.run v).2.turn, (job.run v).2.record) := by
      rw [World.trace, hqueue, hv]
    rw [hsettle, hdone] at htrace
    by_cases hshort : horizon < 2
    · exact .inl ⟨run_drain_short hfinished hshort, .inr hshort⟩
    · obtain ⟨k, rfl⟩ : ∃ k, horizon = k + 2 := ⟨horizon - 2, by omega⟩
      exact .inr ⟨reported, u, hreported, htrace,
        run_drain_finished hfinished (run_drain_idle _ (congrArg Prod.fst htrace) k)⟩

end Runner

/-! ### Reading a deployment again -/

/-- A noted operation gives its result, and one more entry in the record. -/
lemma Play.run_noted {α : Type} (call : Store → Store → α → Call) (x : Play ρ α) (w : World ρ) :
    (noted call x).run w = ((x.run w).1, { (x.run w).2 with record := (x.run w).2.record ++
      [⟨(x.run w).2.turn, call w.store (x.run w).2.store (x.run w).1⟩] }) := rfl

/-- A deployment that the tables hold is read, unless storage fails. -/
lemma Environment.run_getDeployment (env : Environment ρ) {w : World ρ} {id : Int} {d : Deployment}
    (hread : w.store.getDeployment id = .ok d) :
    ∃ result o, (env.repository.getDeployment id).run w = (result, { w with
        outside := o, record := w.record ++ [⟨w.turn, .deployment id w.store result⟩] }) ∧
      (result = .ok d ∨ ∃ failure, result = .error failure ∧
        ∃ o, (env.fault.run o).1 = some failure) := by
  obtain ⟨v, hv⟩ : ∃ v : World ρ, v = { w with outside := (env.fault.run w.outside).2 } := ⟨_, rfl⟩
  have houtside : (Play.outside env.fault).run w = ((env.fault.run w.outside).1, v) := by
    rw [hv]
    rfl
  -- The operation that is noted gives a result and leaves the rest of the scene alone.
  have hnoted : ∀ {result}, (env.guarded (Store.inspect (Store.getDeployment id))).run w =
      (result, v) → (env.repository.getDeployment id).run w = (result, { w with
        outside := (env.fault.run w.outside).2
        record := w.record ++ [⟨w.turn, .deployment id w.store result⟩] }) := by
    intro result hguarded
    have hread : env.repository.getDeployment id = Play.noted (fun seen _ => .deployment id seen)
        (env.guarded (Store.inspect (Store.getDeployment id))) := rfl
    rw [hread, Play.run_noted, hguarded, hv]
  cases hfault : (env.fault.run w.outside).1 with
  | some failure =>
    refine ⟨.error failure, _, hnoted ?_, .inr ⟨failure, rfl, _, hfault⟩⟩
    unfold Environment.guarded
    rw [Play.run_bind, houtside, hfault]
    rfl
  | none =>
    refine ⟨.ok d, _, hnoted ?_, .inl rfl⟩
    have hinspect : (Store.inspect (Store.getDeployment id) : Play ρ _).run v =
        ((v.store.getDeployment id).mapError Failure.store, v) := rfl
    have hstore : v.store = w.store := by rw [hv]
    unfold Environment.guarded
    rw [Play.run_bind, houtside, hfault]
    dsimp only
    rw [hinspect, hstore, hread]
    rfl

/-! ### The command in parts -/

/-- A worker whose parts are those of an environment, and which closes its connection by beginning
the next turn. -/
structure Worker.LivesIn (w : Worker (Play ρ)) (env : Environment ρ)
    (client : WorkflowClient (Play ρ)) : Prop where
  runner : w.runner = env.runner client
  repository : w.host.repository = env.repository
  write : ∀ e, w.host.write e = Play.outside (env.write e)
  close : w.host.close = Play.nextTurn

namespace CommandLine

open StopJob

variable {env : Environment ρ} {client : WorkflowClient (Play ρ)} {w : Worker (Play ρ)}
  {order : Order}

/-- The request of an order, which names the deployment of the order. -/
def Order.Asks (order : Order) (r : StopRequest) : Prop :=
  StopRequest.ofMembers order.task.payload = .ok r ∧ r.deploymentId = order.deploymentId

/-- What the exit of a command tells, when its tables were `s` before and are `t` after it, when
`calls` were made before the connection was closed, and `reads` after that. -/
inductive Exit.Tells (env : Environment ρ) (order : Order) (s : Store) (calls reads : List Call)
    (t : Store) : Exit → Prop where
  /-- The deployment was stopped. -/
  | stopped {r} (asked : order.Asks r) (means : Verdict.success.Means (.ofRequest r) s calls t)
      (unread : reads = []) : Tells env order s calls reads t (.code 0)
  /-- The deployment was not running, and nothing has happened. -/
  | skipped {r} (asked : order.Asks r) (means : Verdict.skipped.Means (.ofRequest r) s calls t)
      (unread : reads = []) : Tells env order s calls reads t (.code 0)
  /-- The deployment was not stopped, which is recorded. -/
  | failed {r d} (asked : order.Asks r) (means : Verdict.failed.Means (.ofRequest r) s calls t)
      (read : reads = [.deployment order.deploymentId t (.ok d)]) :
      Tells env order s calls reads t (.code 1)
  /-- The job has raised. -/
  | raised {r failure} (asked : order.Asks r)
      (reason : Refused (.ofRequest r) failure calls ∨ Unreconciled (.ofRequest r) failure calls)
      (unread : reads = []) : Tells env order s calls reads t (.code 1)
  /-- There was no job, since the text of the task could not hold a span, or its id was too long. -/
  | unbuilt {r} (asked : order.Asks r)
      (unreadable : (∃ key, (key, .float (1.0 / 0.0)) ∈ order.task.payload) ∨
        StopRequest.Overlong order.task.payload)
      (nothing : calls = [] ∧ reads = [] ∧ t = s) : Tells env order s calls reads t (.code 1)
  /-- The task was not accepted. -/
  | rejected {report} (invalid : StopRequest.ofMembers order.task.payload = .error report)
      (nothing : calls = [] ∧ reads = [] ∧ t = s) :
      Tells env order s calls reads t (.raised (.task (.invalidPayload StopJob.name report)))
  /-- The deployment was not stopped, which is recorded, but storage has failed when the deployment
  was read again, which is there. -/
  | unread {r d failure} (asked : order.Asks r)
      (means : Verdict.failed.Means (.ofRequest r) s calls t)
      (there : t.getDeployment order.deploymentId = .ok d)
      (fault : ∃ o, (env.fault.run o).1 = some failure)
      (read : reads = [.deployment order.deploymentId t (.error failure)]) :
      Tells env order s calls reads t (.raised failure)

/-- A command whose task comes to a job runs it, closes the connection and reports, unless the job
or the draining of the queue does not end. -/
lemma run_stop (hw : w.LivesIn env client) {taskType : Option String} {job : Play ρ JobEnd}
    (htakes : (env.runner client).Takes order.task taskType job) (hdocile : Runner.Docile job)
    {start : World ρ} (hempty : start.queue.pending = []) :
    ∃ v : World ρ, v.store = start.store ∧ v.turn = start.turn ∧ v.record = start.record ∧
      (((stop w order).run start).1 = .unfinished ∧
          ((job.run v).1 = .unfinished ∨ w.host.horizon < 2) ∨
        ∃ id reported, ∃ u : World ρ, Runner.Reported (job.run v).1 reported ∧
          u.store = (job.run v).2.store ∧ u.turn = (job.run v).2.turn + 1 ∧
          u.record = (job.run v).2.record ∧
          (stop w order).run start =
            (report w.host order 0 [⟨id, taskType, reported⟩]).run u) := by
  obtain ⟨id, o, hlodge⟩ : ∃ id o, ((env.runner client).lodge order.task).run start =
      (id, { start with queue := start.queue.push id order.task.text, outside := o }) :=
    ⟨_, _, rfl⟩
  obtain ⟨pushed, hpushed⟩ : ∃ pushed : World ρ, pushed =
      { start with queue := start.queue.push id order.task.text, outside := o } := ⟨_, rfl⟩
  have hpending : pushed.queue.pending = [⟨id, order.task.text⟩] := by
    rw [hpushed]
    simp [Queue.push, hempty]
  have hstop : (stop w order).run start = (do
      let drain ← (env.runner client).drain w.host.horizon
      Play.nextTurn
      conclude w.host order drain : Play ρ Exit).run pushed := by
    rw [stop_of_takes (hw.runner ▸ htakes), Play.run_bind, hw.runner, hlodge, hw.close, hpushed]
  obtain ⟨v, hstore, hturn, hrecord, hdrain⟩ :=
    Runner.run_drain htakes hdocile hpending w.host.horizon
  rw [hpushed] at hstore hturn hrecord
  refine ⟨v, hstore, hturn, hrecord, ?_⟩
  rw [hstop, Play.run_bind]
  rcases hdrain with ⟨hdrained, hreason⟩ | ⟨reported, u, hreported, htrace, hdrained⟩
  · rw [hdrained]
    exact .inl ⟨rfl, hreason⟩
  · rw [hdrained]
    simp only [World.trace, Prod.mk.injEq] at htrace
    obtain ⟨_, hstored, hturned, hrecorded⟩ := htrace
    exact .inr ⟨id, reported, { u with turn := u.turn + 1 }, hreported, hstored,
      congrArg (· + 1) hturned, hrecorded, rfl⟩

/-! ### The report -/

/-- A task that has failed is reported by the code 1. -/
lemma run_report_error (hw : w.LivesIn env client) (id : String) (taskType : Option String)
    (line : String) (u : World ρ) :
    ∃ o, (report w.host order 0 [⟨id, taskType, .error line⟩]).run u =
      (.code 1, { u with outside := o }) := by
  unfold report
  dsimp only
  rw [hw.write]
  exact ⟨_, rfl⟩

/-- A job that has not reported a failure leaves the code at 0. -/
lemma run_report_ok (id : String) (taskType : Option String) {result : JobResult}
    (hresult : result.status ≠ "failed") (u : World ρ) :
    (report w.host order 0 [⟨id, taskType, .ok result⟩]).run u = (.code 0, u) := by
  unfold report
  dsimp only
  rw [if_neg hresult]
  rfl

/-- After a job that has reported a failure the deployment is read again.  The code is 1 if it could
be read, and if storage fails, its failure is raised. -/
lemma run_report_failed (hw : w.LivesIn env client) (id : String) (taskType : Option String)
    {result : JobResult} (hresult : result.status = "failed") {u : World ρ} {d : Deployment}
    (hread : u.store.getDeployment order.deploymentId = .ok d) :
    ∃ exit o again, (report w.host order 0 [⟨id, taskType, .ok result⟩]).run u = (exit, { u with
        outside := o
        record := u.record ++ [⟨u.turn, .deployment order.deploymentId u.store again⟩] }) ∧
      (exit = .code 1 ∧ again = .ok d ∨ ∃ failure, exit = .raised failure ∧
        again = .error failure ∧ ∃ o, (env.fault.run o).1 = some failure) := by
  obtain ⟨again, o, hrun, hagain⟩ := env.run_getDeployment hread
  unfold report
  dsimp only
  rw [if_pos hresult, hw.repository, Play.run_bind, hrun]
  rcases hagain with rfl | ⟨failure, rfl, hfault⟩
  · dsimp only
    rw [hw.write]
    exact ⟨.code 1, _, .ok d, rfl, .inl ⟨rfl, rfl⟩⟩
  · exact ⟨.raised failure, o, .error failure, rfl, .inr ⟨failure, rfl, rfl, hfault⟩⟩

/-! ### The theorem -/

/-- The order to stop a deployment; the values of the spans may be anything. -/
def Order.ofSpans (id : Int) (timeout interval : Option Json) : Order :=
  ⟨id, StopRequest.task (.int id) timeout interval⟩

/-- A valid payload asks for the deployment of its order. -/
lemma Order.asks {id : Int} {timeout interval : Option Json} {r : StopRequest}
    (h : StopRequest.ofMembers (Order.ofSpans id timeout interval).task.payload = .ok r) :
    (Order.ofSpans id timeout interval).Asks r := by
  obtain ⟨hid, _⟩ := StopRequest.ofMembers_eq_ok_iff.mp h
  exact ⟨h, (Except.ok.inj hid).symm⟩

section Exits

variable {service : WorkflowClient (StateM ρ)} {store : Store}

/-- What a command has come to at an exit that tells the truth: the connection was closed once, after
the calls of the job and before the deployment was read again. -/
def Truthful (env : Environment ρ) (order : Order) (store : Store) (stopped : Exit × World ρ) :
    Prop :=
  ∃ calls reads, Exit.Tells env order store calls reads stopped.2.store stopped.1 ∧
    stopped.2.turn = 1 ∧ stopped.2.record = calls.map (Event.mk 0) ++ reads.map (Event.mk 1)

/-- A command whose task is refused is truthful. -/
lemma truthful_of_refuses (hw : w.LivesIn env client) {report : Report}
    (htype : order.task.taskType = StopJob.name)
    (hinvalid : StopRequest.ofMembers order.task.payload = .error report)
    (hrefused : (env.runner client).Refuses order.task report) (history : Nat) (outside : ρ) :
    Truthful env order store ((stop w order).run (World.opening { history } store outside)) := by
  rw [stop_of_refuses (hw.runner ▸ hrefused), hw.close, htype]
  exact ⟨[], [], .rejected hinvalid ⟨rfl, rfl, rfl⟩, rfl, rfl⟩

/-- A report is truthful if the job has come to its end, and the connection was closed after it. -/
lemma truthful_of_ends (hw : w.LivesIn env client) {r : StopRequest} (asked : order.Asks r)
    {calls : List Call} {ending : JobEnd} {reported : Except String JobResult} {u : World ρ}
    (hends : Ends (.ofRequest r) store calls u.store ending)
    (hreported : Runner.Reported ending reported) (hturn : u.turn = 1)
    (hrecord : u.record = calls.map (Event.mk 0)) (id : String) (taskType : Option String) :
    Truthful env order store ((report w.host order 0 [⟨id, taskType, reported⟩]).run u) := by
  have hrecord' : u.record = calls.map (Event.mk 0) ++ [].map (Event.mk 1) := by
    rw [hrecord, List.map_nil, List.append_nil]
  cases hreported with
  | @raised failure _ =>
    obtain ⟨o, hrun⟩ := run_report_error hw id taskType failure.line u
    rw [hrun]
    exact ⟨calls, [], .raised asked hends.2 rfl, hturn, hrecord'⟩
  | returned result =>
    obtain ⟨verdict, hstatus, means, hreadable⟩ := hends
    cases verdict with
    | skipped =>
      rw [run_report_ok id taskType (by rw [hstatus]; decide)]
      exact ⟨calls, [], .skipped asked means rfl, hturn, hrecord'⟩
    | success =>
      rw [run_report_ok id taskType (by rw [hstatus]; decide)]
      exact ⟨calls, [], .stopped asked means rfl, hturn, hrecord'⟩
    | failed =>
      obtain ⟨d, hread⟩ := hreadable rfl
      have hread' : u.store.getDeployment order.deploymentId = .ok d := asked.2 ▸ hread
      obtain ⟨exit, o, again, hrun, hexit⟩ := run_report_failed hw id taskType hstatus hread'
      rw [hrun]
      refine ⟨calls, [.deployment order.deploymentId u.store again], ?_, hturn, ?_⟩
      · rcases hexit with ⟨rfl, rfl⟩ | ⟨failure, rfl, rfl, hfault⟩
        · exact .failed asked means rfl
        · exact .unread asked means hread' hfault rfl
      · rw [hrecord, hturn]
        rfl

/-- A command whose task is taken is truthful, if the job and the draining of the queue end and the
report on the job, after which the connection was closed, is truthful. -/
lemma truthful_of_takes (hw : w.LivesIn env client) {taskType : Option String}
    {job : Play ρ JobEnd} (htakes : (env.runner client).Takes order.task taskType job)
    (hdocile : Runner.Docile job)
    (history : Nat) (outside : ρ)
    (hreport : ∀ (v u : World ρ) (id : String) {reported : Except String JobResult},
      v.store = store → v.turn = 0 → v.record = [] → Runner.Reported (job.run v).1 reported →
      u.store = (job.run v).2.store → u.turn = (job.run v).2.turn + 1 →
      u.record = (job.run v).2.record → Truthful env order store
        ((report w.host order 0 [⟨id, taskType, reported⟩]).run u)) :
    let stopped := (stop w order).run (World.opening { history } store outside)
    Truthful env order store stopped ∨ stopped.1 = .unfinished ∧
      (w.host.horizon < 2 ∨ ∃ v, v.store = store ∧ (job.run v).1 = .unfinished) := by
  intro stopped
  obtain ⟨v, hstore, hturn, hrecord, ⟨hunfinished, hnever | hshort⟩ |
      ⟨id, reported, u, hreported, hstored, hturned, hrecorded, hrun⟩⟩ :=
    @run_stop _ _ _ _ _ hw _ _ htakes hdocile (World.opening { history } store outside) rfl
  · exact .inr ⟨hunfinished, .inr ⟨v, hstore, hnever⟩⟩
  · exact .inr ⟨hunfinished, .inl hshort⟩
  · have htrue := hreport v u id hstore hturn hrecord hreported hstored hturned hrecorded
    rw [← hrun] at htrue
    exact .inl htrue

/-- A command whose task comes to no job is truthful, if draining the queue ends. -/
lemma truthful_of_unbuilt (hw : w.LivesIn env client) {r : StopRequest} (asked : order.Asks r)
    (hunreadable : (∃ key, (key, .float (1.0 / 0.0)) ∈ order.task.payload) ∨
      StopRequest.Overlong order.task.payload) {taskType : Option String} {error : Task.Error}
    (htakes : (env.runner client).Takes order.task taskType (pure (.raised (.task error))))
    (history : Nat) (outside : ρ) :
    let stopped := (stop w order).run (World.opening { history } store outside)
    Truthful env order store stopped ∨ stopped.1 = .unfinished ∧ w.host.horizon < 2 := by
  intro stopped
  have hdocile : Runner.Docile (pure (.raised (.task error)) : Play ρ JobEnd) := by
    refine fun v => ⟨rfl, fun failure hfailure => ?_⟩
    cases hfailure
    rfl
  have hstopped := @truthful_of_takes _ env _ _ order store hw _ _ htakes hdocile history outside
  refine (hstopped fun v u id reported hstore hturn hrecord hreported hstored hturned
    hrecorded => ?_).imp_right fun ⟨hunfinished, hreason⟩ => ⟨hunfinished, ?_⟩
  · obtain ⟨⟩ := hreported
    obtain ⟨o, hreport⟩ := run_report_error hw id taskType _ u
    rw [hreport]
    exact ⟨[], [], .unbuilt asked hunreadable ⟨rfl, rfl, hstored.trans hstore⟩,
      hturned.trans (congrArg (· + 1) hturn), hrecorded.trans hrecord⟩
  · rcases hreason with hshort | ⟨_, _, hnever⟩
    · exact hshort
    · cases hnever

/-- A command whose task comes to the job of its request is truthful, if the job and the draining of
the queue end. -/
lemma truthful_of_job (uninterrupted : env.Uninterrupted service)
    (hw : w.LivesIn env service.remote) {r : StopRequest} (asked : order.Asks r)
    (haccepts : (env.runner service.remote).Accepts order.task
      (execute (env.surroundings service.remote) (.ofRequest r) name)) (history : Nat)
    (outside : ρ) :
    let stopped := (stop w order).run (World.opening { history } store outside)
    Truthful env order store stopped ∨ stopped.1 = .unfinished ∧ (w.host.horizon < 2 ∨
      ∃ v, v.store = store ∧ ((execute (env.surroundings service.remote) (.ofRequest r) name).run
        v).1 = .unfinished) := by
  have hends := execute_ends uninterrupted (.ofRequest r)
  have hdocile : Runner.Docile
      (execute (env.surroundings service.remote) (.ofRequest r) name) := by
    intro v
    obtain ⟨calls, t, hscene, hended⟩ := hends v
    have hqueue := congrArg Scene.queue hscene
    refine ⟨hqueue, fun failure hfailure => ?_⟩
    rw [hfailure] at hended
    exact hended.1
  refine truthful_of_takes hw haccepts hdocile history outside fun v u id reported hstore hturn
    hrecord hreported hstored hturned hrecorded => ?_
  obtain ⟨calls, t, hscene, hended⟩ := hends v
  have hafter := congrArg (fun sc : Scene => (sc.store, sc.turn, sc.record)) hscene
  simp only [Scene.after, hturn, hrecord, Prod.mk.injEq] at hafter
  have htable : u.store = t := hstored.trans hafter.1
  rw [hstore, ← htable] at hended
  exact truthful_of_ends hw asked hended hreported (hturned.trans (congrArg (· + 1) hafter.2.1))
    (hrecorded.trans hafter.2.2) id _

end Exits

/-- The exit of a command that stops a deployment tells what has become of it, whatever the tables,
the values of the spans, the answers of the service and the failures of the storage are, as long as
nothing is interrupted.  Only a job that does not end within the horizon leaves the command without
an exit. -/
theorem stop_tells {client : WorkflowClient (StateM ρ)} (uninterrupted : env.Uninterrupted client)
    (hw : w.LivesIn env client.remote) (id : Int) (timeout interval : Option Json) (history : Nat)
    (store : Store) (outside : ρ) :
    let order := Order.ofSpans id timeout interval
    let stopped := (stop w order).run (World.opening { history } store outside)
    Truthful env order store stopped ∨
      stopped.1 = .unfinished ∧ (w.host.horizon < 2 ∨ ∃ r v, order.Asks r ∧ v.store = store ∧
        ((execute (env.surroundings client.remote) (.ofRequest r) name).run v).1 =
          .unfinished) := by
  intro order stopped
  have hregistered : (env.runner client.remote).registry.lookup name =
      some (handler (env.surroundings client.remote)) := rfl
  have htype : order.task.taskType = name := rfl
  have hkeys : (order.task.payload.map Prod.fst).Nodup := StopRequest.nodup_task _ _ _
  cases hrequest : StopRequest.ofMembers order.task.payload with
  | error report =>
    have hrefused := Runner.refuses_of_invalid hregistered htype hrequest
    exact .inl (truthful_of_refuses hw htype hrequest hrefused history outside)
  | ok r =>
    have asked := Order.asks hrequest
    by_cases hlong : StopRequest.Overlong order.task.payload
    · have hstrands := Runner.strands_of_overlong hregistered htype hkeys hrequest hlong
      rcases truthful_of_unbuilt hw asked (.inr hlong) hstrands history outside with htrue | hstuck
      · exact .inl htrue
      · exact .inr ⟨hstuck.1, .inl hstuck.2⟩
    by_cases hinfinite : ∃ key, (key, .float (1.0 / 0.0)) ∈ order.task.payload
    · obtain ⟨key, hmem⟩ := hinfinite
      obtain ⟨report, haccepts⟩ :=
        Runner.accepts_of_infinite hregistered htype hkeys hrequest hlong hmem
      rcases truthful_of_unbuilt hw asked (.inl ⟨key, hmem⟩) haccepts history outside with
        htrue | hstuck
      · exact .inl htrue
      · exact .inr ⟨hstuck.1, .inl hstuck.2⟩
    · have haccepts := Runner.accepts_of_valid hregistered htype hkeys hrequest hlong
        (not_exists.mp hinfinite)
      rcases truthful_of_job uninterrupted hw asked haccepts history outside with
        htrue | ⟨hunfinished, hshort | ⟨v, hstore, hnever⟩⟩
      · exact .inl htrue
      · exact .inr ⟨hunfinished, .inl hshort⟩
      · exact .inr ⟨hunfinished, .inr ⟨r, v, asked, hstore, hnever⟩⟩

/-! ### A deployment that cannot be read again -/

/-- An environment in which no time passes, and whose fifth operation on the tables fails. -/
def fifthFails : Environment Nat :=
  { fourthFails with
    fault := fun k => (if k = 4 then some (.store (.deploymentUnreadable 1)) else none, k + 1) }

/-- A worker that lives in this environment, with a service that starts nothing. -/
def unwillingWorker : Worker (Play Nat) where
  host := {
    repository := fifthFails.repository
    databaseAnswers := pure true
    clock := ⟨pure (.whole 0), fun _ => pure ()⟩
    send _ := pure (.error .transport)
    close := Play.nextTurn
    newId := pure ""
    write e := Play.outside (fifthFails.write e)
    horizon := 20 }
  runner := fifthFails.runner unwilling.remote
  service := {
    environmentName := ""
    target := ""
    checkHealth := pure (.ok "")
    repository := fifthFails.repository
    runner := fifthFails.runner unwilling.remote }

/-- The teardown does not start, which is recorded, and then reading the deployment again fails. -/
def stoppedUnread : Exit × World Nat :=
  (stop unwillingWorker (Order.ofSpans 1 none none)).run
    (World.opening { history := 1 } Github.oneRunning 0)

/-- The command raises the failure of the storage, and its exit is truthful. -/
theorem stoppedUnread_tells :
    stoppedUnread.1 = .raised (.store (.deploymentUnreadable 1)) ∧
      Truthful fifthFails (Order.ofSpans 1 none none) Github.oneRunning stoppedUnread := by
  have huninterrupted : fifthFails.Uninterrupted unwilling := by
    refine ⟨fun k failure hfault => ?_, ?_, ?_, ?_⟩
    · have hone : (if k = 4 then some (Failure.store (.deploymentUnreadable 1)) else none) =
          some failure := hfault
      split at hone
      · cases hone
        rfl
      · cases hone
    · rintro _ _ ⟨_⟩
    · rintro _ _ _ ⟨_⟩
      rfl
    · rintro _ _ _ ⟨_⟩
  have hlives : unwillingWorker.LivesIn fifthFails unwilling.remote := ⟨rfl, rfl, fun _ => rfl, rfl⟩
  have hraised : stoppedUnread.1 = .raised (.store (.deploymentUnreadable 1)) := by
    decide +kernel
  refine ⟨hraised, ?_⟩
  rcases stop_tells huninterrupted hlives 1 none none 1 Github.oneRunning 0 with
    htrue | ⟨hunfinished, _⟩
  · exact htrue
  · have hne : Exit.raised (.store (.deploymentUnreadable 1)) = .unfinished :=
      hraised.symm.trans hunfinished
    cases hne

end CommandLine

end Teardown
