import Mathlib.Tactic.Lemma
import Teardown.Proofs.Api.Background
import Teardown.Proofs.Github.Transcript
import Teardown.Proofs.Settings.Accepted
import Teardown.Proofs.Task.Admission

/-!
# The two triggers of a stop

A stop is triggered from the command line or by a request.  Both submit the same kind of task, and
both may override the longest wait and the pause between two looks.  `triggers_wait` says which wait
comes of it: an override that is given is used as it is, and one that is not above zero turns the
stop down, whatever the defaults are.  For a span that is left out the command line takes the
settings.  A request does not know them: the task leaves the span out, and the defaults of the
payload take its place, so that the two triggers agree as long as the settings have these defaults.

A command can be given an id that is one character too long for the text of a task; then nothing is
waited for.  The id of a request is never too long.
-/

namespace Teardown

/-! ### Spans that are given -/

/-- A span is above zero, if it is given. -/
def Above (given : Option Float) : Prop :=
  ∀ x ∈ given, 0.0 < x

/-- A span is finite, if it is given. -/
def Bounded (given : Option Float) : Prop :=
  ∀ x ∈ given, x.isFinite = true

/-- With a default above zero, a span is above zero if what is given is. -/
lemma above_getD {given : Option Float} {default : Float} (hpos : 0.0 < default) :
    Above (some (given.getD default)) ↔ Above given := by
  cases given with
  | none => simp [Above, hpos]
  | some x => rfl

/-- With a finite default, a span is finite if what is given is. -/
lemma Bounded.getD {given : Option Float} {default : Float} (h : Bounded given)
    (hdefault : default.isFinite = true) : Bounded (some (given.getD default)) := by
  rintro _ ⟨⟩
  cases given with
  | none => exact hdefault
  | some x => exact h x rfl

/-! ### The task of a stop -/

namespace StopRequest

variable {id : Int} {timeout interval : Option Float}

/-- A given span is read from a payload that holds it, if it is above zero; one that is left out
takes its default. -/
lemma readSpan_given {key : String} {default x : Float} {given : Option Float}
    {members : Json.Members} (hmember : Json.member? key members = given.map .float) :
    readSpan key default members = .ok x ↔ Above given ∧ x = given.getD default := by
  unfold readSpan
  rw [hmember]
  cases given with
  | none => simp [Above, eq_comm]
  | some y =>
    have hread : (Validation.float (.float y)).bind Validation.positive = .ok x ↔
        Validation.positive y = .ok x := Iff.rfl
    simp only [Option.map_some, hread, Validation.positive]
    split
    · rename_i hpos
      simp [Above, hpos, eq_comm]
    · rename_i hnot
      simp [Above, hnot]

/-- The payload of a stop is valid if the given spans are above zero; those that are left out take
their defaults. -/
lemma ofMembers_task_eq_ok_iff {r : StopRequest} :
    ofMembers (task (.int id) (timeout.map .float) (interval.map .float)).payload = .ok r ↔
      Above timeout ∧ Above interval ∧
        r = ⟨id, timeout.getD defaultTimeout, interval.getD defaultInterval⟩ := by
  have hid : readDeploymentId
      (task (.int id) (timeout.map .float) (interval.map .float)).payload = .ok id := rfl
  have htimeout : Json.member? timeoutKey
      (task (.int id) (timeout.map .float) (interval.map .float)).payload =
        timeout.map .float := by
    cases timeout <;> cases interval <;> rfl
  have hinterval : Json.member? intervalKey
      (task (.int id) (timeout.map .float) (interval.map .float)).payload =
        interval.map .float := by
    cases timeout <;> cases interval <;> rfl
  have hknown : Envelope.unknownKeys [deploymentKey, timeoutKey, intervalKey]
      (task (.int id) (timeout.map .float) (interval.map .float)).payload = [] := by
    cases timeout <;> cases interval <;> rfl
  rw [ofMembers_eq_ok_iff, hid, readSpan_given htimeout, readSpan_given hinterval, hknown]
  obtain ⟨id', t, i⟩ := r
  simp only [Except.ok.injEq, StopRequest.mk.injEq]
  grind

/-- No span of a stop is an infinite float if the given ones are finite. -/
lemma finite_task (htimeout : Bounded timeout) (hinterval : Bounded interval) (key : String) :
    (key, .float (1.0 / 0.0)) ∉
      (task (.int id) (timeout.map .float) (interval.map .float)).payload := by
  have hinfinite : ¬ (1.0 / 0.0 : Float).isFinite = true := by decide +kernel
  intro hmem
  have hgiven : 1.0 / 0.0 ∈ timeout ∨ 1.0 / 0.0 ∈ interval := by
    simp only [task, List.mem_cons, List.mem_append, Option.mem_toList] at hmem
    cases timeout <;> cases interval <;> grind
  rcases hgiven with hspan | hspan
  · exact hinfinite (htimeout _ hspan)
  · exact hinfinite (hinterval _ hspan)

/-- The id of a stop is too long if its decimal text is. -/
lemma overlong_task {timeout interval : Option Json} :
    Overlong (task (.int id) timeout interval).payload ↔
      Envelope.numberLimit < (toString id).length := by
  have hkeys : deploymentKey ≠ timeoutKey ∧ deploymentKey ≠ intervalKey := by decide
  have hid : ∀ n : Int, (deploymentKey, .int n) ∈ (task (.int id) timeout interval).payload ↔
      n = id := by
    intro n
    simp only [task, List.mem_cons, List.mem_append, Option.mem_toList]
    cases timeout <;> cases interval <;> grind
  simp only [Overlong, hid, exists_eq_left]

end StopRequest

namespace Runner

variable {m : Type → Type} [Monad m] [MonadStateOf Queue m] {r : Runner m}
  {surroundings : StopJob.Surroundings m Seconds} {id : Int} {timeout interval : Option Float}

/-- A stop whose id is not too long and whose given spans are above zero is accepted, and its job waits
with these spans and the defaults of the payload. -/
lemma accepts_task [LawfulMonad m]
    (hregistered : r.registry.lookup StopJob.name = some (StopJob.handler surroundings))
    (hshort : (toString id).length ≤ Envelope.numberLimit)
    (habove : Above timeout ∧ Above interval) (hbounded : Bounded timeout ∧ Bounded interval) :
    r.Accepts (StopRequest.task (.int id) (timeout.map .float) (interval.map .float))
      (StopJob.execute surroundings
        ⟨id, .decimal (timeout.getD StopRequest.defaultTimeout),
          .decimal (interval.getD StopRequest.defaultInterval)⟩ StopJob.name) := by
  have hvalid := (@StopRequest.ofMembers_task_eq_ok_iff id timeout interval _).mpr
    ⟨habove.1, habove.2, rfl⟩
  have htype : (StopRequest.task (.int id) (timeout.map .float) (interval.map .float)).taskType =
      StopJob.name := rfl
  have haccepts := accepts_of_valid hregistered htype (StopRequest.nodup_task _ _ _) hvalid
    (mt StopRequest.overlong_task.mp (Nat.not_lt.mpr hshort)) (StopRequest.finite_task hbounded.1 hbounded.2)
  exact haccepts

/-- A stop whose id is too long is accepted if its given spans are above zero, but its text is not
decoded. -/
lemma strands_task [LawfulMonad m]
    (hregistered : r.registry.lookup StopJob.name = some (StopJob.handler surroundings))
    (hlong : Envelope.numberLimit < (toString id).length)
    (habove : Above timeout ∧ Above interval) :
    r.Strands (StopRequest.task (.int id) (timeout.map .float) (interval.map .float)) := by
  have hvalid := (@StopRequest.ofMembers_task_eq_ok_iff id timeout interval _).mpr
    ⟨habove.1, habove.2, rfl⟩
  exact strands_of_overlong hregistered rfl (StopRequest.nodup_task _ _ _) hvalid
    (StopRequest.overlong_task.mpr hlong)

/-- A stop with a given span that is not above zero is refused. -/
lemma refuses_task
    (hregistered : r.registry.lookup StopJob.name = some (StopJob.handler surroundings))
    (hnot : ¬ (Above timeout ∧ Above interval)) : ∃ report,
    r.Refuses (StopRequest.task (.int id) (timeout.map .float) (interval.map .float)) report := by
  cases hrequest : StopRequest.ofMembers
      (StopRequest.task (.int id) (timeout.map .float) (interval.map .float)).payload with
  | ok request =>
    obtain ⟨htimeout, hinterval, _⟩ := StopRequest.ofMembers_task_eq_ok_iff.mp hrequest
    exact absurd ⟨htimeout, hinterval⟩ hnot
  | error report => exact ⟨report, refuses_of_invalid hregistered rfl hrequest⟩

end Runner

/-! ### The two triggers -/

/-- The limits of the wait that a command triggers: the settings count for what is left out. -/
def CommandLine.Arguments.limits (a : Arguments) (settings : Settings) : Wait.Limits Seconds where
  timeout := .decimal (a.timeout.getD settings.stopTimeout)
  interval := .decimal (a.interval.getD settings.stopInterval)

/-- The limits of the wait that a request triggers: the defaults of the payload count for what is
left out. -/
def Api.StopInput.limits (i : StopInput) : Wait.Limits Seconds where
  timeout := .decimal (i.timeout.getD StopRequest.defaultTimeout)
  interval := .decimal (i.interval.getD StopRequest.defaultInterval)

/-- The id of a request is never too long for the text of a task. -/
lemma Api.StopInput.length_id {id query : String} {input : StopInput}
    (h : StopInput.read id query = .ok input) :
    (toString input.deploymentId).length ≤ Envelope.numberLimit := by
  unfold StopInput.read readId at h
  cases hid : Validation.integerOfText id with
  | error issue =>
    rw [hid] at h
    cases h
  | ok n =>
    rw [hid] at h
    dsimp only [Except.mapError] at h
    split at h
    · rename_i hread _ _
      cases hread
      cases h
      exact Validation.length_of_integerOfText hid
    · cases h

section Triggers

open CommandLine Api

variable {m : Type → Type} [Monad m]

/-- The job that stops a deployment at a host, with the client of a wiring. -/
def Wiring.job (w : Wiring) (host : Host m) (config : StopJob.Config Seconds) : m JobEnd :=
  StopJob.execute
    (host.surroundings (w.account.client ⟨host.send, host.clock.pause, host.write⟩)) config
    StopJob.name

/-- The worker of a wiring handles stopping tasks with the client of the wiring. -/
lemma Wiring.lookup_worker (w : Wiring) (host : Host m) :
    (w.worker host).runner.registry.lookup StopJob.name = some (StopJob.handler
      (host.surroundings (w.account.client ⟨host.send, host.clock.pause, host.write⟩))) := rfl

/-- A command that is planned to stop a deployment submits the task of its arguments. -/
lemma task_of_plan {a : Arguments} {settings : Settings} {log : Log.Setup} {wiring : Wiring}
    {order : Order} (h : Plan.ofSettings a settings = .ok (.stop log wiring order)) :
    order.task = StopRequest.task (.int order.deploymentId)
      ((some (a.timeout.getD settings.stopTimeout)).map .float)
      ((some (a.interval.getD settings.stopInterval)).map .float) := by
  obtain ⟨setup, _, h⟩ := Except.exists_of_bind_eq_ok h
  dsimp only at h
  split at h
  · obtain ⟨_, _, h⟩ := Except.exists_of_bind_eq_ok h
    cases h
  · cases h
  · obtain ⟨_, _, h⟩ := Except.exists_of_bind_eq_ok h
    cases h
    rfl

variable [LawfulMonad m] [MonadStateOf Queue m]

/-- The two triggers wait equally long for equal spans if what counts for the spans that are left
out is equal. -/
lemma limits_eq_iff {a : Arguments} {settings : Settings} {input : StopInput}
    (htimeout : input.timeout = a.timeout) (hinterval : input.interval = a.interval) :
    input.limits = a.limits settings ↔
      (a.timeout = none → settings.stopTimeout = StopRequest.defaultTimeout) ∧
      (a.interval = none → settings.stopInterval = StopRequest.defaultInterval) := by
  have hspan : ∀ (given : Option Float) (x y : Float),
      Seconds.decimal (given.getD x) = .decimal (given.getD y) ↔ (given = none → y = x) := by
    intro given x y
    cases given with
    | none => simp [eq_comm]
    | some z => simp
  unfold StopInput.limits Arguments.limits
  rw [Wait.Limits.mk.injEq, htimeout, hinterval, hspan, hspan]

/-- Let a command and a request be made under accepted settings, all spans being finite.  If the
spans that are given are above zero, the stop is accepted, and the job waits with the limits of the
trigger; otherwise it is turned down without a task.  Only a command with an id that is too long for
the text of its task comes to no job, and so to no wait.  So an override is used as it is by both
triggers; for equal overrides they agree if and only if the settings of the spans that are left out
are the defaults of the payload. -/
theorem triggers_wait {source : Settings.Source} {settings : Settings}
    (hsettings : Settings.ofSource source = .ok settings)
    (hwait : settings.stopTimeout.isFinite = true) (hpause : settings.stopInterval.isFinite = true)
    {a : Arguments} {log : Log.Setup} {wiring : Wiring} {order : Order}
    (hplan : Plan.ofSettings a settings = .ok (.stop log wiring order))
    (hargued : Bounded a.timeout ∧ Bounded a.interval)
    {id query : String} {input : StopInput} (hinput : StopInput.read id query = .ok input)
    (hasked : Bounded input.timeout ∧ Bounded input.interval) (host : Host m) :
    (Above a.timeout ∧ Above a.interval →
      (toString order.deploymentId).length ≤ Envelope.numberLimit →
      (wiring.worker host).runner.Accepts order.task
        (wiring.job host ⟨order.deploymentId, a.limits settings⟩)) ∧
    (Above a.timeout ∧ Above a.interval →
      Envelope.numberLimit < (toString order.deploymentId).length →
      (wiring.worker host).runner.Strands order.task) ∧
    (¬ (Above a.timeout ∧ Above a.interval) → ∃ report,
      stop (wiring.worker host) order = do
        host.close
        return .raised (.task (.invalidPayload StopJob.name report))) ∧
    (Above input.timeout ∧ Above input.interval →
      (wiring.worker host).runner.Accepts input.task
        (wiring.job host ⟨input.deploymentId, input.limits⟩)) ∧
    (¬ (Above input.timeout ∧ Above input.interval) → ∃ report,
      (wiring.worker host).service.stop id query =
        pure { reply := .refusal 400 (Task.Error.invalidPayload StopJob.name report).message }) ∧
    (input.timeout = a.timeout → input.interval = a.interval →
      (input.limits = a.limits settings ↔
        (a.timeout = none → settings.stopTimeout = StopRequest.defaultTimeout) ∧
        (a.interval = none → settings.stopInterval = StopRequest.defaultInterval))) := by
  obtain ⟨hwaitpos, hpausepos⟩ := Settings.spans_pos hsettings
  have habove := and_congr (@above_getD a.timeout _ hwaitpos) (@above_getD a.interval _ hpausepos)
  have htask := task_of_plan hplan
  have hregistered := wiring.lookup_worker host
  refine ⟨fun h hshort => ?_, fun h hlong => ?_, fun h => ?_, fun h => ?_, fun h => ?_,
    limits_eq_iff⟩
  · rw [htask]
    exact Runner.accepts_task hregistered hshort (habove.mpr h)
      ⟨hargued.1.getD hwait, hargued.2.getD hpause⟩
  · rw [htask]
    exact Runner.strands_task hregistered hlong (habove.mpr h)
  · obtain ⟨report, hrefused⟩ :=
      @Runner.refuses_task _ _ _ _ _ order.deploymentId _ _ hregistered (mt habove.mp h)
    rw [← htask] at hrefused
    have hstop := stop_of_refuses hrefused
    rw [htask] at hstop
    exact ⟨report, hstop⟩
  · exact Runner.accepts_task hregistered (StopInput.length_id hinput) h hasked
  · obtain ⟨report, hrefused⟩ :=
      @Runner.refuses_task _ _ _ _ _ input.deploymentId _ _ hregistered h
    exact ⟨report, Service.stop_of_refuses hinput hrefused⟩

end Triggers

/-! ### A pause that is configured -/

section Configured

open CommandLine Api

deriving instance DecidableEq for Seconds

/-- A configured pause of seven seconds between two looks. -/
def sevenSeconds : Settings.Source :=
  [("database_url", .str "sqlite://"), ("github_api_base_url", .str "api"),
    ("github_token", .str "token"), ("github_repository_owner", .str "acme"),
    ("github_repository_name", .str "infra"), ("github_run_lookup_interval_seconds", .int 0),
    ("stopping_workflow_check_interval_seconds", .str "7")]

/-- A command to stop a deployment with the wait that is configured. -/
def plainCommand : Arguments := { command := .stop, deploymentId := some 1 }

/-- A run that is still going at the first look. -/
def slowAnswers : List Github.Exchange :=
  Github.successfulAnswers.take 3 ++
    Github.answered (.obj [("status", .str "in_progress")]) ::
      Github.successfulAnswers.drop 3

/-- A host whose service gives these answers, and which notes the pauses. -/
def notingHost : Host (Play (List Github.Exchange × List Seconds)) where
  repository := Store.repository (pure "2020-01-02 03:04:06")
  databaseAnswers := pure true
  clock := ⟨pure (.whole 0), fun span => Play.outside (modify fun s => (s.1, s.2 ++ [span]))⟩
  send m := Play.outside fun s =>
    (((Github.rehearsed m).run s.1).1, (((Github.rehearsed m).run s.1).2, s.2))
  close := pure ()
  newId := pure "task-1"
  write _ := pure ()
  horizon := 20

/-- The pauses that are made when something happens at this host. -/
def pauses {α : Type} (x : Play (List Github.Exchange × List Seconds) α) : List Seconds :=
  (x.run (World.opening { history := 1 } Github.oneRunning (slowAnswers, []))).2.outside.2

/-- The pauses of a command under given settings. -/
def commandPauses (source : Settings.Source) (a : Arguments) : Option (List Seconds) := do
  let settings ← (Settings.ofSource source).toOption
  match ← (Plan.ofSettings a settings).toOption with
  | .stop _ wiring order => return pauses (stop (wiring.worker notingHost) order)
  | _ => none

/-- The pauses of a request under given settings. -/
def requestPauses (source : Settings.Source) (r : Request) : Option (List Seconds) := do
  let settings ← (Settings.ofSource source).toOption
  let wiring ← (Wiring.ofSettings settings).toOption
  return pauses ((wiring.worker notingHost).service.serve r)

/-- The deployment that a plan stops. -/
def stops? : Plan → Option Int
  | .stop _ _ order => some order.deploymentId
  | .help | .serve _ _ => none

/-- The settings hold the configured pause, and the command is planned with them. -/
lemma sevenSeconds_planned : ∃ settings log wiring order,
    Settings.ofSource sevenSeconds = .ok settings ∧ settings.stopTimeout = 600.0 ∧
      settings.stopInterval = 7.0 ∧
      Plan.ofSettings plainCommand settings = .ok (.stop log wiring order) ∧
      order.deploymentId = 1 := by
  have hchecked : (Settings.ofSource sevenSeconds).toOption.any (fun settings =>
      decide (settings.stopTimeout = 600.0) && decide (settings.stopInterval = 7.0) &&
        (Plan.ofSettings plainCommand settings).toOption.bind stops? == some 1) = true := by
    decide +kernel
  cases hsettings : Settings.ofSource sevenSeconds with
  | error report =>
    rw [hsettings] at hchecked
    cases hchecked
  | ok settings =>
    rw [hsettings] at hchecked
    simp only [Except.toOption, Option.any_some, Bool.and_eq_true, decide_eq_true_eq] at hchecked
    obtain ⟨⟨htimeout, hinterval⟩, hstops⟩ := hchecked
    cases hplan : Plan.ofSettings plainCommand settings with
    | error cause =>
      rw [hplan] at hstops
      cases hstops
    | ok plan =>
      rw [hplan] at hstops
      cases plan with
      | help | serve => cases hstops
      | stop log wiring order =>
        exact ⟨settings, log, wiring, order, rfl, htimeout, hinterval, hplan,
          Option.some.inj (eq_of_beq hstops)⟩

/-- The command waits with the configured pause, and the request with the default of the payload. -/
theorem sevenSeconds_wait : ∃ settings log wiring order,
    Settings.ofSource sevenSeconds = .ok settings ∧
      Plan.ofSettings plainCommand settings = .ok (.stop log wiring order) ∧
      StopInput.read "1" "" = .ok ⟨1, none, none⟩ ∧
      (wiring.worker notingHost).runner.Accepts order.task
        (wiring.job notingHost ⟨1, .decimal 600.0, .decimal 7.0⟩) ∧
      (wiring.worker notingHost).runner.Accepts (StopInput.mk 1 none none).task
        (wiring.job notingHost ⟨1, .decimal 600.0, .decimal 5.0⟩) := by
  obtain ⟨settings, log, wiring, order, hsettings, htimeout, hinterval, hplan, hid⟩ :=
    sevenSeconds_planned
  have hwait : settings.stopTimeout.isFinite = true := by
    rw [htimeout]
    decide +kernel
  have hpause : settings.stopInterval.isFinite = true := by
    rw [hinterval]
    decide +kernel
  have hnothing : Bounded none ∧ Bounded none := ⟨nofun, nofun⟩
  obtain ⟨hcommand, _, _, hrequest, _⟩ := triggers_wait hsettings hwait hpause hplan hnothing
    read_stop hnothing notingHost
  refine ⟨settings, log, wiring, order, hsettings, hplan, read_stop, ?_, hrequest ⟨nofun, nofun⟩⟩
  have hshort : (toString order.deploymentId).length ≤ Envelope.numberLimit := by
    rw [hid]
    decide
  have haccepted := hcommand ⟨nofun, nofun⟩ hshort
  have hlimits : plainCommand.limits settings = ⟨.decimal 600.0, .decimal 7.0⟩ := by
    rw [← htimeout, ← hinterval]
    rfl
  rwa [hlimits, hid] at haccepted

/-- The command pauses as configured; the request of the same stop does not. -/
theorem sevenSeconds_ignored :
    commandPauses sevenSeconds plainCommand = some [.decimal 7.0] ∧
      requestPauses sevenSeconds ⟨"POST", "/deployments/1/stop", ""⟩ = some [.decimal 5.0] := by
  constructor
  · decide +kernel
  · simp only [requestPauses, Service.serve, Service.handle, resolve_stop, Service.follow,
      Service.stop, read_stop]
    decide +kernel

end Configured

end Teardown
