import Mathlib.Tactic.Linarith
import Teardown.Proofs.Workflow.Elapsed

/-!
# Waiting longer

Two waits for the same run are compared, whose limits differ in the timeout only.  The timeout has
no part in when polls begin, and none in what follows from a poll unless it finds the run pending:
so both waits do the same until the deadline of the first has come.

If the last poll of the first wait was not pending, it ends the second wait too, and in the same
way.  If it was pending, the first wait has timed out, and the second one has made at least the
polls of the first, at the same times (`perform_longer`).
-/

namespace Teardown

namespace Wait

section Prolonged

variable {τ : Type} [TimeScale τ] {script : Script τ} {limits limits' : Limits τ} {run : RunHandle}
variable {started : τ} {given : Bool}

/-- The second limits prolong the first for a wait that begins at a clock reading: its deadline
comes no earlier under them, and its pauses are as long. -/
structure Limits.Prolong (started : τ) (limits limits' : Limits τ) : Prop where
  interval_eq : limits'.interval = limits.interval
  later : ∀ now, TimeScale.reached (TimeScale.after started limits'.timeout) now = true →
    TimeScale.reached (TimeScale.after started limits.timeout) now = true

/-! ### What the timeout has no part in -/

/-- When polls begin depends on the pauses, and not on the timeout. -/
lemma begins_congr (h : limits'.interval = limits.interval) (k : Nat) :
    begins script limits' started k = begins script limits started k := by
  induction k with
  | zero => rfl
  | succ k ih => rw [begins, begins, ih, h]

lemma look_congr (h : limits'.interval = limits.interval) (k : Nat) :
    look script limits' started k = look script limits started k := by
  rw [look, look, begins_congr h]

lemma rounds_congr (h : limits'.interval = limits.interval) (k : Nat) :
    rounds script limits' run started k = rounds script limits run started k := by
  simp only [rounds, begins_congr h, h]

lemma polled_congr (h : limits'.interval = limits.interval) (k : Nat) :
    polled script limits' run started k = polled script limits run started k := by
  rw [polled, polled, look_congr h, rounds_congr h, begins_congr h]

/-- What decides under prolonged limits decides under the limits. -/
lemma Limits.Prolong.decides (h : limits.Prolong started limits') {l : Look τ}
    (hdecides : Decides limits' started l) : Decides limits started l := by
  cases hdecides with
  | raised => exact .raised
  | succeeded => exact .succeeded
  | failed => exact .failed
  | timedOut hreached => exact .timedOut (h.later _ hreached)

/-- What follows from a poll that is not pending does not depend on the limits, and neither does the
result of a wait that ends with it. -/
lemma judge_congr {watch : Watch τ} {l : Look τ} (h : l.result ≠ .ok .pending) :
    ∃ ending, judge limits run watch l = .ended ending ∧ judge limits' run watch l = .ended ending ∧
      ending.result limits' run = ending.result limits run := by
  obtain ⟨result, now⟩ := l
  rcases result with failure | (_ | _ | cause)
  · exact ⟨_, rfl, rfl, rfl⟩
  · exact absurd rfl h
  · exact ⟨_, rfl, rfl, rfl⟩
  · exact ⟨_, rfl, rfl, rfl⟩

/-! ### The ends of waits -/

variable (script limits run started given) in
/-- A wait ends with a result, and with its surroundings as they are then. -/
def Ends (result : Except Failure Nat) (t : Trial τ) : Prop :=
  ∃ moves, carriedOut script limits run started given moves = (some result, t)

/-- More moves change nothing in a wait that has ended. -/
lemma carriedOut_add_of_eq_some {moves : Nat} {result : Except Failure Nat} {t : Trial τ}
    (h : carriedOut script limits run started given moves = (some result, t)) (more : Nat) :
    carriedOut script limits run started given (moves + more) = (some result, t) := by
  unfold carriedOut perform at h ⊢
  cases hcheck : limits.check with
  | error reason =>
    rw [hcheck] at h
    exact h
  | ok _ =>
    rw [hcheck] at h
    dsimp only at h ⊢
    rw [StateT.run_bind] at h ⊢
    rcases hrun : (Procedure.run (answer script.client trialClock) (fun _ => pure ())
      (next limits run) moves (.going .opening)).run { now := started } with ⟨_ | ending, u⟩
    · rw [hrun] at h
      cases h
    · rw [hrun] at h
      rw [Procedure.run_add_of_eq_some hrun]
      exact h

/-- A wait ends in one way only. -/
lemma Ends.unique {result result' : Except Failure Nat} {t t' : Trial τ}
    (h : Ends script limits run started given result t)
    (h' : Ends script limits run started given result' t') : result' = result ∧ t' = t := by
  obtain ⟨moves, h⟩ := h
  obtain ⟨moves', h'⟩ := h'
  have hmore := carriedOut_add_of_eq_some h moves'
  have hmore' := carriedOut_add_of_eq_some h' moves
  rw [Nat.add_comm, hmore] at hmore'
  exact ⟨(Option.some.inj (congrArg Prod.fst hmore')).symm, (congrArg Prod.snd hmore').symm⟩

/-- A wait whose limits are refused makes no poll. -/
lemma ends_of_refused {reason : Refusal} (hcheck : limits.check = .error reason) :
    Ends script limits run started given (.error (.refused reason)) { now := started } := by
  refine ⟨0, ?_⟩
  unfold carriedOut perform
  rw [hcheck]
  rfl

/-- A wait whose polls do not decide before one that ends it. -/
lemma ends_of_judge (hcheck : limits.check = .ok ()) {k : Nat} {ending : Ending τ}
    (hbefore : ∀ j < k, ¬ Decides limits started (look script limits started j))
    (hjudge : judge limits run ⟨started, k⟩ (look script limits started k) = .ended ending) :
    Ends script limits run started given (ending.result limits run)
      (afterwards script limits run started k given (ending.events run)) := by
  refine ⟨2 * k + 2 + 1, ?_⟩
  rw [carriedOut_succ hcheck, goOn_rounds hbefore, goOn_ended hjudge 0]
  exact congrArg (Prod.mk _) (forM_noteOn given _ _)

/-- A wait that ends has its limits refused, or it is ended by its first poll that decides. -/
lemma Ends.inversion {result : Except Failure Nat} {t : Trial τ}
    (h : Ends script limits run started given result t) :
    (∃ reason, limits.check = .error reason ∧ result = .error (.refused reason) ∧
        t = { now := started }) ∨
      limits.check = .ok () ∧ ∃ k ending,
        (∀ j < k, ¬ Decides limits started (look script limits started j)) ∧
        judge limits run ⟨started, k⟩ (look script limits started k) = .ended ending ∧
        result = ending.result limits run ∧
        t = afterwards script limits run started k given (ending.events run) := by
  classical
  cases hcheck : limits.check with
  | error reason =>
    exact .inl ⟨reason, rfl, (ends_of_refused hcheck).unique h⟩
  | ok _ =>
    refine .inr ⟨rfl, ?_⟩
    by_cases hdecides : ∃ k, Decides limits started (look script limits started k)
    · have hbefore : ∀ j < Nat.find hdecides,
          ¬ Decides limits started (look script limits started j) :=
        fun j hj => Nat.find_min hdecides hj
      obtain ⟨ending, hjudge, _⟩ :=
        @judge_of_decides _ _ _ run _ (Nat.find hdecides) _ (Nat.find_spec hdecides)
      obtain ⟨hresult, ht⟩ := (ends_of_judge hcheck hbefore hjudge).unique h
      exact ⟨_, ending, hbefore, hjudge, hresult, ht⟩
    · obtain ⟨moves, h⟩ := h
      have hnever := @carriedOut_of_not_decides _ _ script _ run started hcheck given
        (not_exists.mp hdecides) moves
      rw [h] at hnever
      cases hnever

/-! ### A wait that is decided -/

/-- A wait whose last poll, if it has made one, was not pending ends in the same way under prolonged
limits. -/
lemma Ends.prolong (hprolong : limits.Prolong started limits')
    (hcheck : limits'.check = limits.check) {result : Except Failure Nat} {t : Trial τ}
    (h : Ends script limits run started given result t)
    (hlast : ∀ k, t.polls = k + 1 → (look script limits started k).result ≠ .ok .pending) :
    Ends script limits' run started given result t := by
  obtain ⟨reason, hrefused, rfl, rfl⟩ | ⟨hok, k, ending, hbefore, hjudge, rfl, rfl⟩ := h.inversion
  · exact ends_of_refused (hcheck.trans hrefused)
  · obtain ⟨ending', hsame, hjudge', hresult⟩ :=
      @judge_congr _ _ limits limits' run ⟨started, k⟩ _ (hlast k rfl)
    obtain rfl : ending' = ending := State.ended.inj (hsame.symm.trans hjudge)
    have hends := @ends_of_judge _ _ script limits' run started given (hcheck.trans hok) k ending'
      (fun j hj hdecides =>
        hbefore j hj (hprolong.decides (look_congr hprolong.interval_eq j ▸ hdecides)))
      (by rw [look_congr hprolong.interval_eq]; exact hjudge')
    rw [hresult] at hends
    unfold afterwards at hends ⊢
    rwa [polled_congr hprolong.interval_eq] at hends

/-! ### A wait that has timed out -/

/-- The clock readings at which polls began. -/
def pollTimes (acts : List (Act τ)) : List τ :=
  acts.filterMap fun
    | .poll _ began => some began
    | _ => none

/-- What has been recorded is not lost. -/
structure Trial.Grows (t u : Trial τ) : Prop where
  acts : t.acts <+: u.acts
  polls : t.polls ≤ u.polls

omit [TimeScale τ] in
lemma Trial.Grows.refl (t : Trial τ) : t.Grows t :=
  ⟨List.prefix_refl _, Nat.le_refl _⟩

omit [TimeScale τ] in
lemma Trial.Grows.trans {t u v : Trial τ} (h : t.Grows u) (h' : u.Grows v) : t.Grows v :=
  ⟨h.acts.trans h'.acts, h.polls.trans h'.polls⟩

/-- An answer adds to the record. -/
lemma answer_grows (q : Question τ) (t : Trial τ) :
    t.Grows ((answer script.client trialClock q).run t).2 := by
  cases q with
  | clock => exact .refl t
  | poll run => exact ⟨List.prefix_append _ _, Nat.le_succ _⟩
  | pause span => exact ⟨List.prefix_append _ _, Nat.le_refl _⟩

/-- A run adds to the record. -/
lemma run_grows (moves : Nat) (s : State τ) (t : Trial τ) :
    t.Grows ((Procedure.run (answer script.client trialClock) (fun _ => pure ()) (next limits run)
      moves s).run t).2 := by
  have hgrows := @Procedure.run_invariant (Trial τ) (Trial τ) _ _ _ _
    (answer script.client trialClock) (fun _ => pure ()) (next limits run) id
    (fun u _ _ v => u.Grows v) (fun _ u => t.Grows u) (fun _ _ => rfl)
    (fun q u => answer_grows q u) (fun h _ ha => h.trans ha) moves s t (.refl t)
  exact hgrows.choose_spec.1

variable (script limits run started) in
/-- The polls of some rounds begin one after another. -/
lemma pollTimes_rounds (k : Nat) :
    pollTimes (rounds script limits run started k) =
      (List.range k).map (begins script limits started) := by
  induction k with
  | zero => rfl
  | succ k ih =>
    unfold pollTimes rounds at ih ⊢
    rw [List.range_succ, List.flatMap_append, List.filterMap_append, ih, List.map_append]
    rfl

variable (script limits run started) in
/-- The times of the polls when the poll `k` has been made. -/
lemma pollTimes_polled (k : Nat) :
    pollTimes (polled script limits run started k).acts =
      (List.range (k + 1)).map (begins script limits started) := by
  unfold polled
  rw [List.range_succ, List.map_append, ← pollTimes_rounds script limits run started k]
  exact List.filterMap_append

/-- Events are no polls. -/
lemma pollTimes_afterwards (k : Nat) (events : Timeline) :
    pollTimes (afterwards script limits run started k given events).acts =
      (List.range (k + 1)).map (begins script limits started) := by
  have hnotes : pollTimes (if given then events.map (Act.note : _ → Act τ) else []) = [] := by
    unfold pollTimes
    cases given with
    | false => rfl
    | true => simp
  rw [← pollTimes_polled script limits run started k]
  unfold afterwards
  unfold pollTimes at hnotes ⊢
  rw [List.filterMap_append, hnotes, List.append_nil]

/-- A wait that has been at its poll `k` keeps the record of that. -/
lemma polled_grows (hcheck : limits.check = .ok ()) {k : Nat}
    (hbefore : ∀ j < k, ¬ Decides limits started (look script limits started j)) (more : Nat) :
    (polled script limits run started k).Grows
      (carriedOut script limits run started given (2 * k + 2 + more)).2 := by
  have hmoves : 2 * k + 2 + more = 2 * k + (more + 1) + 1 := by omega
  have hgrows := @run_grows _ _ script limits run more
    (judge limits run ⟨started, k⟩ (look script limits started k))
    (polled script limits run started k)
  rw [hmoves, carriedOut_succ hcheck, goOn_rounds hbefore, goOn_polling]
  rcases hrun : (Procedure.run (answer script.client trialClock) (fun _ => pure ())
    (next limits run) more (judge limits run ⟨started, k⟩ (look script limits started k))).run
    (polled script limits run started k) with ⟨_ | ending, t⟩
  · rw [hrun] at hgrows
    exact hgrows
  · rw [hrun] at hgrows
    dsimp only
    rw [forM_noteOn]
    exact hgrows.trans ⟨List.prefix_append _ _, Nat.le_refl _⟩

/-- A wait whose last poll was pending has timed out.  Under prolonged limits the wait makes at
least its polls, at the same times. -/
lemma Ends.prolong_timedOut (hprolong : limits.Prolong started limits')
    (hcheck : limits'.check = limits.check) {result : Except Failure Nat} {t : Trial τ}
    (h : Ends script limits run started given result t) {k : Nat} (hpolls : t.polls = k + 1)
    (hlast : (look script limits started k).result = .ok .pending) :
    (∃ failure, result = .error failure ∧ failure.kind = "WorkflowWaitTimeoutError") ∧
      (pollTimes t.acts).length = k + 1 ∧
      ∀ more, let longer := (carriedOut script limits' run started given (2 * k + 2 + more)).2
        k + 1 ≤ longer.polls ∧ pollTimes t.acts <+: pollTimes longer.acts := by
  obtain ⟨_, _, _, rfl⟩ | ⟨hok, k', ending, hbefore, hjudge, rfl, rfl⟩ := h.inversion
  · cases hpolls
  obtain rfl : k' = k := Nat.succ.inj hpolls
  refine ⟨?_, by simp [pollTimes_afterwards], fun more => ?_⟩
  · unfold judge at hjudge
    rw [hlast] at hjudge
    dsimp only at hjudge
    split at hjudge
    · cases hjudge
      exact ⟨_, rfl, rfl⟩
    · cases hjudge
  · have hbefore' : ∀ j < k', ¬ Decides limits' started (look script limits' started j) := by
      intro j hj hdecides
      rw [look_congr hprolong.interval_eq] at hdecides
      exact hbefore j hj (hprolong.decides hdecides)
    have hgrows := @polled_grows _ _ script limits' run started given (hcheck.trans hok) k' hbefore'
      more
    rw [polled_congr hprolong.interval_eq] at hgrows
    refine ⟨hgrows.polls, ?_⟩
    rw [pollTimes_afterwards, ← pollTimes_polled script limits run started k']
    exact hgrows.acts.filterMap _

end Prolonged

/-! ### The theorem -/

variable {results : Nat → Except Failure RunStatus} {spans : Nat → ℚ} {run : RunHandle}
variable {timeout timeout' interval started : ℚ}

/-- A longer timeout prolongs the limits. -/
lemma prolong_finite (hle : timeout ≤ timeout') :
    (finiteLimits timeout interval).Prolong (.finite started) (finiteLimits timeout' interval) where
  interval_eq := rfl
  later now hreached := by
    cases now with
    | finite q =>
      have hlater : started + timeout' ≤ q := of_decide_eq_true hreached
      exact decide_eq_true (by linarith)
    | infinite negative => exact hreached
    | notANumber => cases hreached

/-- Two waits over exact time, with a positive timeout and with one that is no shorter.

A wait with the first that its last poll ends, or that makes none, ends in the same way with the
second: with the same result, and after the same polls, pauses and events.  A wait with the first
whose last poll finds the run pending has timed out; a wait with the second then makes at least as
many polls, and those at the same times. -/
theorem perform_longer (given : Bool) (htimeout : 0 < timeout) (hle : timeout ≤ timeout')
    {result : Except Failure Nat} {t : Trial Exact}
    (hends : Ends (timed results spans) (finiteLimits timeout interval) run (.finite started) given
      result t) :
    ((∀ k, t.polls = k + 1 → results k ≠ .ok .pending) →
      Ends (timed results spans) (finiteLimits timeout' interval) run (.finite started) given
        result t) ∧
    ∀ k, t.polls = k + 1 → results k = .ok .pending →
      (∃ failure, result = .error failure ∧ failure.kind = "WorkflowWaitTimeoutError") ∧
      (pollTimes t.acts).length = k + 1 ∧
      ∃ moves, ∀ more,
        let longer := (carriedOut (timed results spans) (finiteLimits timeout' interval) run
          (.finite started) given (moves + more)).2
        k + 1 ≤ longer.polls ∧ pollTimes t.acts <+: pollTimes longer.acts := by
  have hprolong := @prolong_finite timeout timeout' interval started hle
  have hcheck : (finiteLimits timeout' interval).check = (finiteLimits timeout interval).check := by
    unfold Limits.check finiteLimits
    rw [Exact.notPositive_finite htimeout, Exact.notPositive_finite (htimeout.trans_le hle)]
  refine ⟨fun hlast => ?_, fun k hpolls hlast => ?_⟩
  · refine hends.prolong hprolong hcheck fun k hpolls => ?_
    rw [look_timed]
    exact hlast k hpolls
  · obtain ⟨htimedOut, hlength, hlonger⟩ :=
      hends.prolong_timedOut hprolong hcheck hpolls (by rw [look_timed]; exact hlast)
    exact ⟨htimedOut, hlength, 2 * k + 2, hlonger⟩

/-- A wait of one interval times out with its second poll, and a wait of two makes these polls too.
If the second poll finds the run succeeded, both waits end with it. -/
theorem oneInterval_longer :
    let run : RunHandle := { id := .number 7 }
    let second : Nat → Except Failure RunStatus :=
      fun k => .ok (if k = 0 then .pending else .succeeded)
    (∀ given, Ends (timed second fun _ => 0) (finiteLimits 10 5) run (.finite 0) given (.ok 2)
      (afterwards (timed second fun _ => 0) (finiteLimits 5 5) run (.finite 0) 1 given
        [⟨"wait", "completed", [("run_id", .int 7), ("poll_count", .int 2)]⟩])) ∧
    ∃ moves, ∀ more,
      let longer := (carriedOut (timed (fun _ => .ok .pending) fun _ => 0) (finiteLimits 10 5) run
        (.finite 0) true (moves + more)).2
      2 ≤ longer.polls ∧ [.finite 0, .finite 5] <+: pollTimes longer.acts := by
  intro run second
  have hfive : TimeScale.notPositive (Exact.finite 5) = false :=
    Exact.notPositive_finite (by norm_num)
  have hcheck : (finiteLimits 5 5).check = .ok () := check_of_positive hfive hfive
  have hfirst : ∀ results : Nat → Except Failure RunStatus, results 0 = .ok .pending →
      ∀ j < 1, ¬ Decides (finiteLimits 5 5) (.finite 0)
        (look (timed results fun _ => 0) (finiteLimits 5 5) (.finite 0) j) := by
    intro results hresults j hj
    obtain rfl : j = 0 := Nat.lt_one_iff.mp hj
    rw [look_timed, hresults, decides_pending_iff]
    norm_num [begun]
  refine ⟨fun given => ?_, ?_⟩
  · have hends := @ends_of_judge _ _ (timed second fun _ => 0) _ run (.finite 0) given hcheck 1
      (.succeeded 2) (hfirst second rfl) rfl
    refine (perform_longer given (by norm_num) (by norm_num) hends).1 fun k hpolls hpending => ?_
    obtain rfl : 1 = k := Nat.succ.inj hpolls
    cases hpending
  · have hdecides : Decides (finiteLimits 5 5) (.finite 0)
        (look (timed (fun _ => .ok .pending) fun _ => 0) (finiteLimits 5 5) (.finite 0) 1) := by
      rw [look_timed, decides_pending_iff]
      norm_num [begun]
    obtain ⟨ending, hjudge, _⟩ := @judge_of_decides _ _ _ run _ 1 _ hdecides
    have hends := @ends_of_judge _ _ _ _ run (.finite 0) true hcheck 1 _ (hfirst _ rfl) hjudge
    obtain ⟨_, _, hlonger⟩ :=
      (perform_longer true (by norm_num) (show (5 : ℚ) ≤ 10 by norm_num) hends).2 1 rfl rfl
    have htimes : (List.range 2).map (begins (timed (fun _ => .ok .pending) fun _ => 0)
        (finiteLimits 5 5) (.finite 0)) = [.finite 0, .finite 5] := by
      simp [List.range_succ, begins_timed, begun]
    rwa [pollTimes_afterwards, htimes] at hlonger

end Wait

end Teardown
