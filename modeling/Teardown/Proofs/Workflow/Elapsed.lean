import Mathlib.Algebra.Order.Floor.Semiring
import Mathlib.Data.Rat.Floor
import Mathlib.Tactic.Linarith
import Mathlib.Tactic.Ring
import Teardown.Proofs.Time.Exact
import Teardown.Proofs.Workflow.Course

/-!
# How long a wait takes

A wait is reckoned here over exact time, with polls that take given spans and pauses that take just
their interval.  A poll that begins a timeout after the start, or later, decides, and every round
before it takes at least an interval; so the wait ends after at most `⌈timeout / interval⌉₊ + 1`
polls.  A poll before the last has ended before the deadline, so that the last one begins less than
an interval after it (`perform_elapsed`).
-/

namespace Teardown.Wait

/-- Polls with given results, each of which takes a given span. -/
def timed (results : Nat → Except Failure RunStatus) (spans : Nat → ℚ) : Script Exact :=
  fun k began => ⟨results k, TimeScale.after began (.finite (spans k))⟩

/-- Limits that are exact numbers. -/
def finiteLimits (timeout interval : ℚ) : Limits Exact :=
  ⟨.finite timeout, .finite interval⟩

/-- When a poll begins, if none before it ends the wait. -/
def begun (interval started : ℚ) (spans : Nat → ℚ) : Nat → ℚ
  | 0 => started
  | k + 1 => begun interval started spans k + spans k + interval

variable {results : Nat → Except Failure RunStatus} {spans : Nat → ℚ} {run : RunHandle}
variable {timeout interval started : ℚ} {k : Nat}

/-! ### The clock of the wait -/

/-- The clock shows when a poll begins. -/
lemma begins_timed (k : Nat) :
    begins (timed results spans) (finiteLimits timeout interval) (.finite started) k =
      .finite (begun interval started spans k) := by
  induction k with
  | zero => rfl
  | succ k ih =>
    rw [begins, ih]
    rfl

/-- The clock after a poll shows when it began and the span that it took. -/
lemma look_timed (k : Nat) :
    look (timed results spans) (finiteLimits timeout interval) (.finite started) k =
      ⟨results k, .finite (begun interval started spans k + spans k)⟩ := by
  unfold look
  rw [begins_timed]
  rfl

/-- Polls begin at least an interval after one another. -/
lemma begun_add_le (hspan : 0 ≤ spans k) :
    begun interval started spans k + interval ≤ begun interval started spans (k + 1) := by
  rw [begun]
  linarith

/-- Before a poll begins, as many intervals have passed as there were polls before it. -/
lemma le_begun (hspans : ∀ k, 0 ≤ spans k) (k : Nat) :
    started + k * interval ≤ begun interval started spans k := by
  induction k with
  | zero => simp [begun]
  | succ k ih =>
    calc started + (k + 1 : Nat) * interval
      _ = started + k * interval + interval := by push_cast; ring
      _ ≤ begun interval started spans k + interval := by linarith
      _ ≤ begun interval started spans (k + 1) := begun_add_le (hspans k)

/-- Polls that take no time begin after whole numbers of intervals. -/
lemma begun_of_idle (hspans : ∀ k, spans k = 0) (k : Nat) :
    begun interval started spans k = started + k * interval := by
  induction k with
  | zero => simp [begun]
  | succ k ih =>
    rw [begun, ih, hspans]
    push_cast
    ring

/-! ### Decisions in time -/

/-- A pending poll decides if the deadline has come after it. -/
lemma decides_pending_iff {now : ℚ} :
    Decides (finiteLimits timeout interval) (.finite started) ⟨.ok .pending, .finite now⟩ ↔
      started + timeout ≤ now := by
  constructor
  · intro h
    cases h with
    | timedOut hreached => exact of_decide_eq_true hreached
  · intro h
    exact .timedOut (decide_eq_true h)

/-- Every poll after the deadline decides. -/
lemma decides_of_le {result : Except Failure RunStatus} {now : ℚ} (h : started + timeout ≤ now) :
    Decides (finiteLimits timeout interval) (.finite started) ⟨result, .finite now⟩ := by
  rcases result with failure | (_ | _ | cause)
  · exact .raised
  · exact decides_pending_iff.mpr h
  · exact .succeeded
  · exact .failed

/-- Some poll decides, at the latest when as many intervals have passed as cover the timeout. -/
lemma exists_decides (hspans : ∀ k, 0 ≤ spans k) (hinterval : 0 < interval) :
    ∃ k ≤ ⌈timeout / interval⌉₊,
      (∀ j < k, ¬ Decides (finiteLimits timeout interval) (.finite started)
        (look (timed results spans) (finiteLimits timeout interval) (.finite started) j)) ∧
      Decides (finiteLimits timeout interval) (.finite started)
        (look (timed results spans) (finiteLimits timeout interval) (.finite started) k) := by
  classical
  have hcover : timeout ≤ ⌈timeout / interval⌉₊ * interval :=
    (div_le_iff₀ hinterval).mp (Nat.le_ceil _)
  have hlast : Decides (finiteLimits timeout interval) (.finite started)
      (look (timed results spans) (finiteLimits timeout interval) (.finite started)
        ⌈timeout / interval⌉₊) := by
    have hbegun := @le_begun spans interval started hspans ⌈timeout / interval⌉₊
    have hspan := hspans ⌈timeout / interval⌉₊
    rw [look_timed]
    exact decides_of_le (by linarith)
  have hexists : ∃ k, Decides (finiteLimits timeout interval) (.finite started)
      (look (timed results spans) (finiteLimits timeout interval) (.finite started) k) :=
    ⟨_, hlast⟩
  exact ⟨Nat.find hexists, Nat.find_min' hexists hlast, fun j hj => Nat.find_min hexists hj,
    Nat.find_spec hexists⟩

/-- A poll that does not decide has ended before the deadline. -/
lemma lt_of_not_decides
    (h : ¬ Decides (finiteLimits timeout interval) (.finite started)
      (look (timed results spans) (finiteLimits timeout interval) (.finite started) k)) :
    begun interval started spans k + spans k < started + timeout := by
  rw [look_timed] at h
  exact not_le.mp fun hle => h (decides_of_le hle)

/-! ### The bounds of a wait -/

/-- The bounds of a wait of `k + 1` polls that begin at given times, and that has ended with a
result. -/
structure Timely (timeout interval started : ℚ) (results : Nat → Except Failure RunStatus)
    (spans : Nat → ℚ) (k : Nat) (times : Nat → ℚ) (ended : ℚ) (result : Except Failure Nat) :
    Prop where
  polls_le : k + 1 ≤ ⌈timeout / interval⌉₊ + 1
  times_zero : times 0 = started
  times_apart : ∀ j < k, times j + interval ≤ times (j + 1)
  ended_lt : ended - started < timeout + interval + spans k
  /-- The wait times out only after the timeout, though a poll may fail in the same way before. -/
  timeout_le : ∀ failure, result = .error failure → failure.kind = "WorkflowWaitTimeoutError" →
    timeout ≤ ended - started ∨ results k = .error failure
  /-- A wait for a run that stays pending, by polls that take no time. -/
  idle : (∀ j, results j = .ok .pending) → (∀ j, spans j = 0) →
    (∃ failure, result = .error failure ∧ failure.kind = "WorkflowWaitTimeoutError") ∧
      k = ⌈timeout / interval⌉₊ ∧ ended - started = ⌈timeout / interval⌉₊ * interval ∧
      ended - started < timeout + interval

/-- The last poll begins less than an interval after the deadline. -/
lemma begun_lt (htimeout : 0 < timeout) (hinterval : 0 < interval)
    (hbefore : ∀ j < k, ¬ Decides (finiteLimits timeout interval) (.finite started)
      (look (timed results spans) (finiteLimits timeout interval) (.finite started) j)) :
    begun interval started spans k < started + timeout + interval := by
  cases k with
  | zero =>
    rw [begun]
    linarith
  | succ k =>
    have hlt := lt_of_not_decides (hbefore k (Nat.lt_succ_self k))
    rw [begun]
    linarith

/-- A wait that has concluded by a timeout has lasted for it, unless a poll failed that way. -/
lemma le_of_concludes {n : Nat} {now : ℚ} {found : Except Failure RunStatus} {failure : Failure}
    {result : Except Failure Nat} {events : Timeline}
    (h : Concludes (finiteLimits timeout interval) run (.finite started) n ⟨found, .finite now⟩
      result events)
    (hresult : result = .error failure) (hkind : failure.kind = "WorkflowWaitTimeoutError") :
    timeout ≤ now - started ∨ found = .error failure := by
  have hother : "WorkflowRunFailedError" ≠ "WorkflowWaitTimeoutError" := by decide
  cases h with
  | raised => exact .inr (congrArg _ (Except.error.inj hresult))
  | succeeded => cases hresult
  | failed _ =>
    cases hresult
    exact absurd hkind hother
  | unexplained _ =>
    cases hresult
    exact absurd hkind hother
  | timedOut hreached =>
    have hle : started + timeout ≤ now := of_decide_eq_true hreached
    exact .inl (by linarith)

/-- The poll that decides a wait for a run that stays pending, if polls take no time, comes after as
many intervals as cover the timeout. -/
lemma eq_ceil_of_idle (hinterval : 0 < interval) (hpending : ∀ j, results j = .ok .pending)
    (hidle : ∀ j, spans j = 0) (hle : k ≤ ⌈timeout / interval⌉₊)
    (hdecides : Decides (finiteLimits timeout interval) (.finite started)
      (look (timed results spans) (finiteLimits timeout interval) (.finite started) k)) :
    k = ⌈timeout / interval⌉₊ := by
  rw [look_timed, hpending, decides_pending_iff, begun_of_idle hidle, hidle] at hdecides
  have hcover : timeout / interval ≤ k := (div_le_iff₀ hinterval).mpr (by linarith)
  exact le_antisymm hle (Nat.ceil_le.mpr hcover)

/-- A pending poll concludes a wait by a timeout. -/
lemma exists_of_concludes_pending {τ : Type} [TimeScale τ] {limits : Limits τ} {started now : τ}
    {n : Nat} {result : Except Failure Nat} {events : Timeline}
    (h : Concludes limits run started n ⟨.ok .pending, now⟩ result events) :
    ∃ failure, result = .error failure ∧ failure.kind = "WorkflowWaitTimeoutError" := by
  cases h with
  | timedOut hreached => exact ⟨_, rfl, rfl⟩

variable (results run started)

/-- The course of a wait over exact time, with positive limits and polls that take no negative time.
It always ends, and its polls, its length and its timeout are within the bounds. -/
theorem perform_elapsed (given : Bool) (htimeout : 0 < timeout) (hinterval : 0 < interval)
    (hspans : ∀ k, 0 ≤ spans k) :
    ∃ (k : Nat) (times : Nat → ℚ) (ended : ℚ) (result : Except Failure Nat) (events : Timeline),
      Timely timeout interval started results spans k times ended result ∧
      ∀ moves, carriedOut (timed results spans) (finiteLimits timeout interval) run
          (.finite started) given (2 * k + 3 + moves) =
        (some result, {
          now := .finite ended
          polls := k + 1
          acts := ((List.range k).flatMap fun j =>
              [.poll run (.finite (times j)), .pause (.finite interval)]) ++
            [.poll run (.finite (times k))] ++ if given then events.map .note else [] }) := by
  have hcheck : (finiteLimits timeout interval).check = .ok () :=
    check_of_positive (decide_eq_false (not_le.mpr htimeout))
      (decide_eq_false (not_le.mpr hinterval))
  obtain ⟨k, hle, hbefore, hdecides⟩ :=
    @exists_decides results spans timeout interval started hspans hinterval
  obtain ⟨result, events, hconcludes, hends⟩ :=
    @carriedOut_of_decides _ _ _ _ run _ hcheck given k hbefore hdecides
  have hlate := begun_lt htimeout hinterval hbefore
  refine ⟨k, begun interval started spans, begun interval started spans k + spans k, result, events,
    { polls_le := Nat.succ_le_succ hle
      times_zero := rfl
      times_apart := fun j _ => begun_add_le (hspans j)
      ended_lt := by linarith
      timeout_le := fun failure hresult hkind => ?_
      idle := fun hpending hidle => ?_ }, fun moves => ?_⟩
  · rw [look_timed] at hconcludes
    exact le_of_concludes hconcludes hresult hkind
  · have hk : k = ⌈timeout / interval⌉₊ := eq_ceil_of_idle hinterval hpending hidle hle hdecides
    have hended : begun interval started spans k + spans k - started = k * interval := by
      rw [begun_of_idle hidle, hidle]
      ring
    rw [look_timed, hpending] at hconcludes
    rw [← hk]
    refine ⟨exists_of_concludes_pending hconcludes, rfl, hended, ?_⟩
    linarith [hidle k]
  · rw [hends moves]
    unfold afterwards polled rounds
    rw [look_timed]
    simp only [begins_timed]
    rfl

/-- A timeout of two intervals, waited for with polls that take no time: the third poll comes just
with the deadline and ends the wait. -/
theorem twoIntervals_elapsed : ∃ failure acts,
    carriedOut (timed (fun _ => .ok .pending) fun _ => 0) (finiteLimits 10 5) { id := .number 7 }
        (.finite 0) true 7 =
      (some (.error failure), { now := .finite 10, polls := 3, acts := acts }) ∧
    failure.kind = "WorkflowWaitTimeoutError" := by
  obtain ⟨k, times, ended, result, events, htimely, hends⟩ :=
    @perform_elapsed (fun _ => .ok .pending) (fun _ => 0) { id := .number 7 } 10 5 0 true
      (by norm_num) (by norm_num) (fun _ => le_rfl)
  obtain ⟨⟨failure, hresult, hkind⟩, hk, hended, _⟩ :=
    htimely.idle (fun _ => rfl) (fun _ => rfl)
  have hceil : ⌈(10 : ℚ) / 5⌉₊ = 2 := by norm_num
  have hten : ended = 10 := by
    rw [hceil] at hended
    norm_num at hended
    exact hended
  rw [hceil] at hk
  subst hk hten hresult
  exact ⟨failure, _, hends 0, hkind⟩

end Teardown.Wait
