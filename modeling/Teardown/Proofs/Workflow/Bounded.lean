import Mathlib.Tactic.Ring
import Teardown.Proofs.Procedure
import Teardown.Proofs.Task.StopRequest
import Teardown.Proofs.Time.Exact
import Teardown.StopJob

/-!
# Whether a wait ends

A run that is pending at every poll is waited for until the deadline has come.  The wait is read
here against such a run and a clock that moves only when the wait pauses, and then by the pause.  Over
any numbers, the wait ends if and only if this clock ever reaches the deadline (`idle_ends_iff`).

Over exact time this is decided by the limits: the limits of a validated request let every wait end,
unless the timeout is infinite and the interval is not.
-/

namespace Teardown

namespace Wait

/-! ### A run that stays pending -/

section Idle

variable {τ : Type} [TimeScale τ]

/-- A client whose runs are pending at every poll. -/
def stalled : WorkflowClient (StateM τ) where
  source := pure (.ok "stalled")
  start _ := pure (.ok { id := .number 1 })
  poll _ := pure (.ok .pending)

/-- A clock that moves by the pauses of the wait, and by nothing else. -/
def pausedClock : Clock (StateM τ) τ where
  now := get
  pause span := modify fun now => TimeScale.after now span

variable (limits : Limits τ) (run : RunHandle)

/-- The wait for a run that stays pending, from a phase and a clock reading on, for a number of
moves. -/
def idle (moves : Nat) (phase : Phase τ) (now : τ) : Option (Ending τ) :=
  ((Procedure.run (answer stalled pausedClock) (fun _ => pure ()) (next limits run) moves
    (.going phase)).run now).1

/-- The clock after some pauses. -/
def paused (started : τ) (pauses : Nat) : τ :=
  (fun now => TimeScale.after now limits.interval)^[pauses] started

lemma idle_opening (moves : Nat) (now : τ) :
    idle limits run (moves + 1) .opening now = idle limits run moves (.polling ⟨now, 0⟩) now :=
  rfl

lemma idle_pausing (moves : Nat) (watch : Watch τ) (now : τ) :
    idle limits run (moves + 1) (.pausing watch) now =
      idle limits run moves (.polling watch) (TimeScale.after now limits.interval) :=
  rfl

variable {limits}

/-- A poll at which the deadline has come ends the wait. -/
lemma idle_polling_of_reached (moves : Nat) {watch : Watch τ} {now : τ}
    (h : TimeScale.reached (TimeScale.after watch.started limits.timeout) now = true) :
    idle limits run (moves + 2) (.polling watch) now =
      some (.timedOut (watch.polls + 1) (TimeScale.elapsed watch.started now)) := by
  have hjudge : judge limits run watch ⟨.ok .pending, now⟩ =
      .ended (.timedOut (watch.polls + 1) (TimeScale.elapsed watch.started now)) := if_pos h
  have hstep : idle limits run (moves + 2) (.polling watch) now =
      ((Procedure.run (answer stalled pausedClock) (fun _ => pure ()) (next limits run) (moves + 1)
        (judge limits run watch ⟨.ok .pending, now⟩)).run now).1 := rfl
  rw [hstep, hjudge]
  rfl

/-- A poll at which the deadline has not come leads to a pause. -/
lemma idle_polling_of_not_reached (moves : Nat) {watch : Watch τ} {now : τ}
    (h : TimeScale.reached (TimeScale.after watch.started limits.timeout) now = false) :
    idle limits run (moves + 1) (.polling watch) now =
      idle limits run moves (.pausing ⟨watch.started, watch.polls + 1⟩) now := by
  have hjudge : judge limits run watch ⟨.ok .pending, now⟩ =
      .going (.pausing ⟨watch.started, watch.polls + 1⟩) := if_neg (Bool.eq_false_iff.mp h)
  have hstep : idle limits run (moves + 1) (.polling watch) now =
      ((Procedure.run (answer stalled pausedClock) (fun _ => pure ()) (next limits run) moves
        (judge limits run watch ⟨.ok .pending, now⟩)).run now).1 := rfl
  rw [hstep, hjudge]
  rfl

/-- The deadline of a watch comes at a clock reading or after some pauses more. -/
def ComesDue (limits : Limits τ) (watch : Watch τ) (now : τ) : Prop :=
  ∃ pauses, TimeScale.reached (TimeScale.after watch.started limits.timeout)
    (paused limits now pauses) = true

/-- A deadline that comes ends the wait. -/
lemma idle_timedOut {watch : Watch τ} {now : τ} (h : ComesDue limits watch now) :
    ∃ moves polls elapsed,
      idle limits run moves (.polling watch) now = some (.timedOut polls elapsed) := by
  obtain ⟨pauses, hreached⟩ := h
  induction pauses generalizing watch now with
  | zero => exact ⟨2, _, _, idle_polling_of_reached run 0 hreached⟩
  | succ pauses ih =>
    cases hnow : TimeScale.reached (TimeScale.after watch.started limits.timeout) now with
    | true => exact ⟨2, _, _, idle_polling_of_reached run 0 hnow⟩
    | false =>
      obtain ⟨moves, polls, elapsed, hends⟩ :=
        @ih ⟨watch.started, watch.polls + 1⟩ (TimeScale.after now limits.interval) hreached
      refine ⟨moves + 2, polls, elapsed, ?_⟩
      rw [idle_polling_of_not_reached run (moves + 1) hnow, idle_pausing]
      exact hends

/-- A wait that ends has come to its deadline, whether it polls or pauses first. -/
lemma comesDue_of_idle (moves : Nat) {watch : Watch τ} {now : τ} {ending : Ending τ} :
    (idle limits run moves (.polling watch) now = some ending →
      ComesDue limits watch now ∧ ∃ polls elapsed, ending = .timedOut polls elapsed) ∧
    (idle limits run moves (.pausing watch) now = some ending →
      ComesDue limits watch (TimeScale.after now limits.interval) ∧
        ∃ polls elapsed, ending = .timedOut polls elapsed) := by
  induction moves generalizing watch now with
  | zero =>
    constructor
    · intro h
      cases h
    · intro h
      cases h
  | succ moves ih =>
    refine ⟨fun h => ?_, fun h => ih.1 h⟩
    cases hnow : TimeScale.reached (TimeScale.after watch.started limits.timeout) now with
    | true =>
      refine ⟨⟨0, hnow⟩, ?_⟩
      cases moves with
      | zero =>
        have hstops : idle limits run 1 (.polling watch) now = none := rfl
        rw [hstops] at h
        cases h
      | succ moves =>
        rw [idle_polling_of_reached run moves hnow] at h
        exact ⟨_, _, (Option.some.inj h).symm⟩
    | false =>
      rw [idle_polling_of_not_reached run moves hnow] at h
      obtain ⟨⟨pauses, hreached⟩, htimedOut⟩ := ih.2 h
      exact ⟨⟨pauses + 1, hreached⟩, htimedOut⟩

/-- The wait for a run that stays pending ends if and only if the clock ever reaches the deadline,
and then it ends by timing out. -/
theorem idle_ends_iff (started : τ) :
    ((∃ moves ending, idle limits run moves .opening started = some ending) ↔
      ComesDue limits ⟨started, 0⟩ started) ∧
    ∀ moves ending, idle limits run moves .opening started = some ending →
      ∃ polls elapsed, ending = .timedOut polls elapsed := by
  have hends : ∀ moves ending, idle limits run moves .opening started = some ending →
      ComesDue limits ⟨started, 0⟩ started ∧ ∃ polls elapsed, ending = .timedOut polls elapsed := by
    intro moves ending h
    cases moves with
    | zero => cases h
    | succ moves =>
      rw [idle_opening] at h
      exact (comesDue_of_idle run moves).1 h
  refine ⟨⟨?_, fun hdue => ?_⟩, fun moves ending h => (hends moves ending h).2⟩
  · rintro ⟨moves, ending, h⟩
    exact (hends moves ending h).1
  · obtain ⟨moves, polls, elapsed, h⟩ := idle_timedOut run hdue
    exact ⟨moves + 1, _, (idle_opening limits run moves started).trans h⟩

end Idle

/-! ### Exact limits -/

section Exact

variable {limits : Limits Exact} {started : ℚ}

/-- The clock after some pauses of a finite interval. -/
lemma paused_finite {interval : ℚ} (h : limits.interval = .finite interval) (pauses : Nat) :
    paused limits (.finite started) pauses = .finite (started + pauses * interval) := by
  unfold paused
  rw [h]
  induction pauses with
  | zero => simp
  | succ pauses ih =>
    rw [Function.iterate_succ_apply', ih]
    have hsum : TimeScale.after (Exact.finite (started + pauses * interval)) (.finite interval) =
        .finite (started + pauses * interval + interval) := rfl
    rw [hsum]
    push_cast
    congr 1
    ring

/-- A positive finite timeout comes after some pauses of a positive finite interval. -/
lemma comesDue_of_finite {timeout interval : ℚ} (htimeout : limits.timeout = .finite timeout)
    (hinterval : limits.interval = .finite interval) (hpos : 0 < interval) :
    ComesDue limits ⟨.finite started, 0⟩ (.finite started) := by
  obtain ⟨pauses, hpauses⟩ := exists_nat_ge (timeout / interval)
  have hle : timeout ≤ pauses * interval := (div_le_iff₀ hpos).mp hpauses
  refine ⟨pauses, ?_⟩
  rw [paused_finite hinterval, htimeout]
  exact decide_eq_true (by linarith)

/-- After one pause of infinite length every deadline has come. -/
lemma comesDue_of_infinite (hinterval : limits.interval = .infinite false)
    (htimeout : limits.timeout = .infinite false ∨ ∃ timeout, limits.timeout = .finite timeout) :
    ComesDue limits ⟨.finite started, 0⟩ (.finite started) := by
  refine ⟨1, ?_⟩
  have hpaused : paused limits (.finite started) 1 = .infinite false := by
    unfold paused
    rw [hinterval]
    rfl
  rw [hpaused]
  rcases htimeout with h | ⟨timeout, h⟩
  · rw [h]
    rfl
  · rw [h]
    rfl

/-- An infinite deadline does not come while the pauses are finite. -/
lemma not_comesDue_of_infinite {interval : ℚ} (htimeout : limits.timeout = .infinite false)
    (hinterval : limits.interval = .finite interval) :
    ¬ ComesDue limits ⟨.finite started, 0⟩ (.finite started) := by
  rintro ⟨pauses, h⟩
  rw [paused_finite hinterval, htimeout] at h
  cases h

end Exact

/-! ### Limits of a request -/

/-- The limits of a request, over exact time. -/
def exactLimits (r : StopRequest) : Limits Exact :=
  let config := StopJob.Config.ofRequest r
  ⟨.ofSeconds config.limits.timeout, .ofSeconds config.limits.interval⟩

/-- The wait for a run that stays pending ends, and it ends with the failure of a timeout. -/
def TimesOut (limits : Limits Exact) (run : RunHandle) (started : Exact) : Prop :=
  ∃ moves ending failure, idle limits run moves .opening started = some ending ∧
    ending.result limits run = .error failure ∧ failure.kind = "WorkflowWaitTimeoutError"

/-- A wait that ends, and ends by timing out, ends with the failure of a timeout. -/
lemma timesOut_iff_comesDue {limits : Limits Exact} {run : RunHandle} {started : ℚ} :
    TimesOut limits run (.finite started) ↔
      ComesDue limits ⟨.finite started, 0⟩ (.finite started) := by
  have hends := @idle_ends_iff _ _ limits run (.finite started)
  obtain ⟨hiff, htimedOut⟩ := hends
  constructor
  · rintro ⟨moves, ending, _, hends, _⟩
    exact hiff.mp ⟨moves, ending, hends⟩
  · intro hdue
    obtain ⟨moves, ending, hends⟩ := hiff.mpr hdue
    obtain ⟨polls, elapsed, rfl⟩ := htimedOut moves ending hends
    exact ⟨moves, _, _, hends, rfl, rfl⟩

/-- The limits of every task that can be read and is valid are accepted by the wait.  If its run
stays pending, the wait times out, unless the timeout is infinite and the interval is not; with such
limits it never ends. -/
theorem timesOut_iff (text : String) (e : Envelope) (r : StopRequest) (run : RunHandle)
    (started : ℚ) : Envelope.ofText text = .ok e → StopRequest.ofMembers e.payload = .ok r →
    (exactLimits r).check = .ok () ∧
      (TimesOut (exactLimits r) run (.finite started) ↔
        (exactLimits r).timeout ≠ .infinite false ∨ (exactLimits r).interval = .infinite false) ∧
      ((exactLimits r).timeout = .infinite false → (exactLimits r).interval ≠ .infinite false →
        ∀ moves, idle (exactLimits r) run moves .opening (.finite started) = none) := by
  intro _ hvalid
  obtain ⟨htimeoutPos, hintervalPos⟩ := StopRequest.pos_of_ofMembers hvalid
  have htimeout : (exactLimits r).timeout = .infinite false ∨
      ∃ timeout, (exactLimits r).timeout = .finite timeout ∧ 0 < timeout :=
    Exact.ofFloat_of_pos htimeoutPos
  have hinterval : (exactLimits r).interval = .infinite false ∨
      ∃ interval, (exactLimits r).interval = .finite interval ∧ 0 < interval :=
    Exact.ofFloat_of_pos hintervalPos
  have hcheck : (exactLimits r).check = .ok () := by
    have hfirst : TimeScale.notPositive (exactLimits r).timeout = false :=
      Exact.notPositive_ofFloat htimeoutPos
    have hsecond : TimeScale.notPositive (exactLimits r).interval = false :=
      Exact.notPositive_ofFloat hintervalPos
    unfold Limits.check
    rw [hfirst, hsecond]
    rfl
  -- An infinite deadline is out of reach for finite pauses.
  have hnever : (exactLimits r).timeout = .infinite false →
      (exactLimits r).interval ≠ .infinite false →
      ¬ ComesDue (exactLimits r) ⟨.finite started, 0⟩ (.finite started) := by
    intro h hne
    obtain ⟨interval, hfinite, _⟩ := hinterval.resolve_left hne
    exact not_comesDue_of_infinite h hfinite
  refine ⟨hcheck, ?_, fun h hne moves => ?_⟩
  · rw [timesOut_iff_comesDue]
    constructor
    · intro hdue
      by_contra hboth
      obtain ⟨h, hne⟩ := not_or.mp hboth
      exact hnever (not_not.mp h) hne hdue
    · intro h
      rcases hinterval with hinfinite | ⟨interval, hfinite, hpos⟩
      · exact comesDue_of_infinite hinfinite (htimeout.imp_right fun ⟨q, hq, _⟩ => ⟨q, hq⟩)
      · have hne : (exactLimits r).interval ≠ .infinite false := by
          rw [hfinite]
          exact Exact.noConfusion
        obtain ⟨timeout, hq, _⟩ := htimeout.resolve_left (h.resolve_right hne)
        exact comesDue_of_finite hq hfinite hpos
  · cases hends : idle (exactLimits r) run moves .opening (.finite started) with
    | none => rfl
    | some ending =>
      exact absurd ((idle_ends_iff run (.finite started)).1.mp ⟨moves, ending, hends⟩) (hnever h hne)

/-! ### Two tasks -/

/-- The bits of the timeout and of the interval of the request in a task text. -/
def spanBits (text : String) : Option (Nat × Nat) :=
  match Envelope.ofText text with
  | .error _ => none
  | .ok e =>
    match StopRequest.ofMembers e.payload with
    | .error _ => none
    | .ok r => some (r.timeout.toBits.toNat, r.interval.toBits.toNat)

/-- A text with spans is a task with a valid request. -/
lemma exists_of_spanBits {text : String} {timeout interval : Nat}
    (h : spanBits text = some (timeout, interval)) :
    ∃ e r, Envelope.ofText text = .ok e ∧ StopRequest.ofMembers e.payload = .ok r ∧
      r.timeout.toBits.toNat = timeout ∧ r.interval.toBits.toNat = interval := by
  unfold spanBits at h
  cases hread : Envelope.ofText text with
  | error report =>
    rw [hread] at h
    cases h
  | ok e =>
    rw [hread] at h
    dsimp only at h
    cases hvalid : StopRequest.ofMembers e.payload with
    | error report =>
      rw [hvalid] at h
      cases h
    | ok r =>
      rw [hvalid] at h
      obtain ⟨htimeout, hinterval⟩ := Prod.mk.inj (Option.some.inj h)
      exact ⟨e, r, rfl, hvalid, htimeout, hinterval⟩

/-- A task that asks for no particular spans. -/
def plainTask : String :=
  "\x7b\"task_type\":\"stopping\",\"payload\":\x7b\"deployment_id\":1\x7d\x7d"

/-- The wait of this task times out. -/
theorem plainTask_timesOut : ∃ e r, Envelope.ofText plainTask = .ok e ∧
    StopRequest.ofMembers e.payload = .ok r ∧
    TimesOut (exactLimits r) { id := .number 7 } (.finite 0) := by
  have hbits : spanBits plainTask = some (0x4082C00000000000, 0x4014000000000000) := by
    decide +kernel
  obtain ⟨e, r, hread, hvalid, htimeout, _⟩ := exists_of_spanBits hbits
  have hfinite : (exactLimits r).timeout ≠ .infinite false := by
    intro hinfinite
    have hsame := (Exact.ofFloat_eq_infinite_iff r.timeout).mp hinfinite
    rw [htimeout] at hsame
    exact absurd hsame (by decide)
  exact ⟨e, r, hread, hvalid,
    (timesOut_iff _ e r { id := .number 7 } 0 hread hvalid).2.1.mpr (.inl hfinite)⟩

/-- A task that asks for an infinite timeout. -/
def endlessTask : String :=
  "\x7b\"task_type\":\"stopping\",\"payload\":" ++
    "\x7b\"deployment_id\":1,\"workflow_timeout_seconds\":Infinity\x7d\x7d"

/-- This task is read and is valid, but its wait does not time out. -/
theorem endlessTask_not_timesOut : ∃ e r, Envelope.ofText endlessTask = .ok e ∧
    StopRequest.ofMembers e.payload = .ok r ∧
    ¬ TimesOut (exactLimits r) { id := .number 7 } (.finite 0) := by
  have hbits : spanBits endlessTask = some (0x7FF0000000000000, 0x4014000000000000) := by
    decide +kernel
  obtain ⟨e, r, hread, hvalid, htimeout, hinterval⟩ := exists_of_spanBits hbits
  have hinfinite : (exactLimits r).timeout = .infinite false :=
    (Exact.ofFloat_eq_infinite_iff r.timeout).mpr htimeout
  have hne : Exact.ofFloat r.interval ≠ .infinite false := by
    intro hinfinite
    have hsame := (Exact.ofFloat_eq_infinite_iff r.interval).mp hinfinite
    rw [hinterval] at hsame
    exact absurd hsame (by decide)
  obtain ⟨_, hpos⟩ := StopRequest.pos_of_ofMembers hvalid
  obtain ⟨interval, hfinite, _⟩ := (Exact.ofFloat_of_pos hpos).resolve_left hne
  refine ⟨e, r, hread, hvalid, fun h => ?_⟩
  exact not_comesDue_of_infinite hinfinite hfinite (timesOut_iff_comesDue.mp h)

end Wait

end Teardown
