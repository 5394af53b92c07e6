import Mathlib.Tactic.Lemma
import Teardown.Proofs.Procedure
import Teardown.Workflow.Wait

/-!
# The course of a wait

A wait is carried out here against polls that follow a script: the script says what each poll finds,
and what the clock shows after it.  Its surroundings keep a record of every poll, pause and event.

A poll decides the wait if it fails, finds the run ended, or finds it pending when the deadline has
come.  `perform_course` says that the first poll that decides ends the wait as `Concludes` has it,
that all polls before it are followed by a pause, and that nothing else happens; a wait that no poll
decides never ends.
-/

namespace Teardown.Wait

variable {τ : Type} [TimeScale τ]

/-! ### Scripted surroundings -/

/-- What a wait does to its surroundings.  A poll comes with the clock reading at its beginning. -/
inductive Act (τ : Type) where
  | poll (run : RunHandle) (began : τ)
  | pause (span : τ)
  | note (event : StageEvent)

/-- The clock, the number of polls made, and the record of everything done. -/
structure Trial (τ : Type) where
  now : τ
  polls : Nat := 0
  acts : List (Act τ) := []

/-- What every poll finds when it begins at a clock reading, and the clock after it. -/
abbrev Script (τ : Type) := Nat → τ → Look τ

/-- A client whose polls follow a script. -/
def Script.client (script : Script τ) : WorkflowClient (StateM (Trial τ)) where
  source := pure (.ok "scripted")
  start _ := pure (.ok { id := .number 1 })
  poll run := fun t =>
    let look := script t.polls t.now
    (look.result,
      { now := look.now, polls := t.polls + 1, acts := t.acts ++ [.poll run t.now] })

/-- A clock that a pause moves by its span. -/
def trialClock : Clock (StateM (Trial τ)) τ where
  now := fun t => (t.now, t)
  pause span := fun t =>
    ((), { t with now := TimeScale.after t.now span, acts := t.acts ++ [.pause span] })

/-- Notes an event if a timeline is given. -/
def noteOn (given : Bool) (event : StageEvent) : StateM (Trial τ) Unit :=
  fun t => ((), if given then { t with acts := t.acts ++ [.note event] } else t)

variable (script : Script τ) (limits : Limits τ) (run : RunHandle) (started : τ)

/-- The clock reading at which a poll begins, if none before it ends the wait. -/
def begins : Nat → τ
  | 0 => started
  | k + 1 => TimeScale.after (script k (begins k)).now limits.interval

/-- What a poll finds, and the clock after it. -/
def look (k : Nat) : Look τ :=
  script k (begins script limits started k)

/-! ### Decisions -/

/-- What a poll found ends a wait that began at a clock reading. -/
inductive Decides : Look τ → Prop
  | raised {failure now} : Decides ⟨.error failure, now⟩
  | succeeded {now} : Decides ⟨.ok .succeeded, now⟩
  | failed {cause now} : Decides ⟨.ok (.failed cause), now⟩
  | timedOut {now} :
      TimeScale.reached (TimeScale.after started limits.timeout) now = true →
      Decides ⟨.ok .pending, now⟩

/-- How the last of `n` polls ends the wait: with which result, and with which events. -/
inductive Concludes (n : Nat) : Look τ → Except Failure Nat → Timeline → Prop
  /-- The failure of a poll is the failure of the wait. -/
  | raised {failure now} : Concludes n ⟨.error failure, now⟩ (.error failure) []
  | succeeded {now} : Concludes n ⟨.ok .succeeded, now⟩ (.ok n)
      [⟨"wait", "completed", [("run_id", run.id.toJson), ("poll_count", .int n)]⟩]
  | failed {cause now} : cause ≠ "" →
      Concludes n ⟨.ok (.failed (some cause)), now⟩
        (.error (.workflow ⟨.runFailed cause, some run.id⟩))
        [⟨"wait", "failed",
          [("run_id", run.id.toJson), ("poll_count", .int n), ("cause", .str cause)]⟩]
  /-- A run that gives no cause is named in its place. -/
  | unexplained {cause now} : cause = none ∨ cause = some "" →
      Concludes n ⟨.ok (.failed cause), now⟩
        (.error (.workflow
          ⟨.runFailed ("workflow run " ++ run.id.display ++ " failed"), some run.id⟩))
        [⟨"wait", "failed",
          [("run_id", run.id.toJson), ("poll_count", .int n),
            ("cause", .str ("workflow run " ++ run.id.display ++ " failed"))]⟩]
  | timedOut {now} :
      TimeScale.reached (TimeScale.after started limits.timeout) now = true →
      Concludes n ⟨.ok .pending, now⟩
        (.error (.workflow
          ⟨.timedOut (TimeScale.display (TimeScale.elapsed started now)) run.id
            (TimeScale.display limits.timeout), some run.id⟩))
        [⟨"wait", "timed_out",
          [("run_id", run.id.toJson), ("poll_count", .int n),
            ("elapsed_seconds", TimeScale.toJson (TimeScale.elapsed started now))]⟩]

variable {script limits run started}

/-- A poll that does not decide leads to a pause. -/
lemma judge_of_not_decides {polls : Nat} {l : Look τ} (h : ¬ Decides limits started l) :
    judge limits run ⟨started, polls⟩ l = .going (.pausing ⟨started, polls + 1⟩) := by
  obtain ⟨result, now⟩ := l
  rcases result with failure | (_ | _ | cause)
  · exact absurd .raised h
  · exact if_neg fun hreached => h (.timedOut hreached)
  · exact absurd .succeeded h
  · exact absurd .failed h

omit [TimeScale τ] in
/-- A cause that is not empty is reported as it is. -/
lemma causeOf_eq_self {cause : String} (h : cause ≠ "") : causeOf run (some cause) = cause :=
  if_neg fun hempty => h (String.isEmpty_iff.mp hempty)

/-- A poll that decides ends the wait as it is to conclude. -/
lemma judge_of_decides (polls : Nat) {l : Look τ} (h : Decides limits started l) :
    ∃ ending : Ending τ, judge limits run ⟨started, polls⟩ l = .ended ending ∧
      Concludes limits run started (polls + 1) l (ending.result limits run)
        (ending.events run) := by
  cases h with
  | raised => exact ⟨_, rfl, .raised⟩
  | succeeded => exact ⟨_, rfl, .succeeded⟩
  | timedOut hreached => exact ⟨_, if_pos hreached, .timedOut hreached⟩
  | @failed cause now =>
    cases cause with
    | none => exact ⟨_, rfl, .unexplained (.inl rfl)⟩
    | some cause =>
      by_cases hempty : cause = ""
      · subst hempty
        exact ⟨_, rfl, .unexplained (.inr rfl)⟩
      · exact ⟨.runFailed (polls + 1) cause,
          congrArg (fun text => State.ended (.runFailed (polls + 1) text)) (causeOf_eq_self hempty),
          .failed hempty⟩

/-! ### One round after another -/

variable (script limits run started)

/-- What is done for a number of polls that are each followed by a pause. -/
def rounds (k : Nat) : List (Act τ) :=
  (List.range k).flatMap fun j =>
    [.poll run (begins script limits started j), .pause limits.interval]

/-- The surroundings when a poll begins. -/
def before (k : Nat) : Trial τ :=
  { now := begins script limits started k, polls := k, acts := rounds script limits run started k }

/-- The surroundings when a poll has been made. -/
def polled (k : Nat) : Trial τ :=
  { now := (look script limits started k).now
    polls := k + 1
    acts := rounds script limits run started k ++ [.poll run (begins script limits started k)] }

/-- The wait from a phase on. -/
def goOn (moves : Nat) (phase : Phase τ) (t : Trial τ) : Option (Ending τ) × Trial τ :=
  (Procedure.run (answer script.client trialClock) (fun _ => pure ()) (next limits run) moves
    (.going phase)).run t

variable {script limits run started}

/-- A poll is made, and what follows is decided by what it finds. -/
lemma goOn_polling (k moves : Nat) :
    goOn script limits run (moves + 1) (.polling ⟨started, k⟩)
        (before script limits run started k) =
      (Procedure.run (answer script.client trialClock) (fun _ => pure ()) (next limits run) moves
        (judge limits run ⟨started, k⟩ (look script limits started k))).run
        (polled script limits run started k) :=
  rfl

/-- A poll that does not decide makes a round with the pause after it. -/
lemma goOn_round {k : Nat} (h : ¬ Decides limits started (look script limits started k))
    (moves : Nat) :
    goOn script limits run (moves + 2) (.polling ⟨started, k⟩)
        (before script limits run started k) =
      goOn script limits run moves (.polling ⟨started, k + 1⟩)
        (before script limits run started (k + 1)) := by
  have hrounds : rounds script limits run started (k + 1) =
      (rounds script limits run started k ++ [.poll run (begins script limits started k)]) ++
        [.pause limits.interval] := by
    unfold rounds
    rw [List.range_succ, List.flatMap_append, List.flatMap_singleton, List.append_assoc]
    rfl
  rw [goOn_polling, judge_of_not_decides h, before, hrounds]
  rfl

/-- The rounds before the first poll that decides. -/
lemma goOn_rounds {k : Nat} (h : ∀ j < k, ¬ Decides limits started (look script limits started j))
    (moves : Nat) :
    goOn script limits run (2 * k + moves) (.polling ⟨started, 0⟩)
        (before script limits run started 0) =
      goOn script limits run moves (.polling ⟨started, k⟩)
        (before script limits run started k) := by
  induction k generalizing moves with
  | zero => rw [Nat.mul_zero, Nat.zero_add]
  | succ k ih =>
    have hmoves : 2 * (k + 1) + moves = 2 * k + (moves + 2) := by omega
    rw [hmoves, ih (fun j hj => h j (by omega)), goOn_round (h k (Nat.lt_succ_self k))]

/-- A wait that no poll decides has not ended after any number of moves. -/
lemma goOn_of_not_decides (h : ∀ j, ¬ Decides limits started (look script limits started j)) :
    ∀ moves k, (goOn script limits run moves (.polling ⟨started, k⟩)
      (before script limits run started k)).1 = none
  | 0, _ => rfl
  | 1, k => by
    rw [goOn_polling]
    rfl
  | moves + 2, k => by
    rw [goOn_round (h k)]
    exact goOn_of_not_decides h moves (k + 1)

/-- A poll that ends the wait is the last thing done in it. -/
lemma goOn_ended {k : Nat} {ending : Ending τ}
    (h : judge limits run ⟨started, k⟩ (look script limits started k) = .ended ending)
    (moves : Nat) :
    goOn script limits run (moves + 2) (.polling ⟨started, k⟩)
        (before script limits run started k) =
      (some ending, polled script limits run started k) := by
  rw [goOn_polling, h]
  rfl

/-! ### The whole wait -/

variable (script limits run started)

/-- The wait carried out from a clock reading on, with a timeline or without. -/
def carriedOut (given : Bool) (moves : Nat) : Option (Except Failure Nat) × Trial τ :=
  (perform script.client trialClock (fun _ => pure ()) (noteOn given) limits run moves).run
    { now := started }

/-- The surroundings after a wait that a poll has ended and that leaves some events. -/
def afterwards (k : Nat) (given : Bool) (events : Timeline) : Trial τ :=
  { polled script limits run started k with
    acts := (polled script limits run started k).acts ++ if given then events.map .note else [] }

variable {script limits run started}

/-- Limits that are positive pass their check. -/
lemma check_of_positive (htimeout : TimeScale.notPositive limits.timeout = false)
    (hinterval : TimeScale.notPositive limits.interval = false) : limits.check = .ok () := by
  unfold Limits.check
  rw [htimeout, hinterval]
  rfl

/-- Positive limits, once checked, leave the wait to its polls. -/
lemma carriedOut_succ (hcheck : limits.check = .ok ()) (given : Bool) (moves : Nat) :
    carriedOut script limits run started given (moves + 1) =
      match goOn script limits run moves (.polling ⟨started, 0⟩)
          (before script limits run started 0) with
      | (none, t) => (none, t)
      | (some ending, t) =>
        (some (ending.result limits run), (((ending.events run).forM (noteOn given)).run t).2) := by
  have hopening : (Procedure.run (answer script.client trialClock) (fun _ => pure ())
        (next limits run) (moves + 1) (.going .opening)).run { now := started } =
      goOn script limits run moves (.polling ⟨started, 0⟩)
        (before script limits run started 0) := rfl
  unfold carriedOut perform
  rw [hcheck]
  dsimp only
  rw [StateT.run_bind, hopening]
  rcases goOn script limits run moves (.polling ⟨started, 0⟩)
    (before script limits run started 0) with ⟨_ | ending, t⟩
  · rfl
  · rfl

omit [TimeScale τ] in
/-- Events are noted after everything done before. -/
lemma forM_noteOn (given : Bool) (events : Timeline) (t : Trial τ) :
    ((events.forM (noteOn given)).run t).2 =
      { t with acts := t.acts ++ if given then events.map .note else [] } := by
  induction events generalizing t with
  | nil => cases given <;> simp <;> rfl
  | cons event events ih =>
    have hcons : (((event :: events).forM (noteOn given)).run t).2 =
        ((events.forM (noteOn given)).run ((noteOn given event).run t).2).2 := rfl
    rw [hcons, ih]
    cases given
    · rfl
    · simp [noteOn, StateT.run]

/-- The first poll that decides ends the wait, after rounds of polls and pauses. -/
lemma carriedOut_of_decides (hcheck : limits.check = .ok ()) (given : Bool) {k : Nat}
    (hbefore : ∀ j < k, ¬ Decides limits started (look script limits started j))
    (hdecides : Decides limits started (look script limits started k)) :
    ∃ result events,
      Concludes limits run started (k + 1) (look script limits started k) result events ∧
      ∀ moves, carriedOut script limits run started given (2 * k + 3 + moves) =
        (some result, afterwards script limits run started k given events) := by
  obtain ⟨ending, hjudge, hconcludes⟩ := @judge_of_decides _ _ _ run _ k _ hdecides
  refine ⟨_, _, hconcludes, fun moves => ?_⟩
  have hmoves : 2 * k + 3 + moves = (2 * k + (moves + 2)) + 1 := by omega
  rw [hmoves, carriedOut_succ hcheck, goOn_rounds hbefore, goOn_ended hjudge]
  exact congrArg (Prod.mk _) (forM_noteOn given _ _)

/-- A wait that no poll decides does not end. -/
lemma carriedOut_of_not_decides (hcheck : limits.check = .ok ()) (given : Bool)
    (h : ∀ j, ¬ Decides limits started (look script limits started j)) (moves : Nat) :
    (carriedOut script limits run started given moves).1 = none := by
  cases moves with
  | zero =>
    unfold carriedOut perform
    rw [hcheck]
    rfl
  | succ moves =>
    rw [carriedOut_succ hcheck]
    have hnone := @goOn_of_not_decides _ _ _ _ run _ h moves 0
    rcases hgo : goOn script limits run moves (.polling ⟨started, 0⟩)
      (before script limits run started 0) with ⟨_ | ending, t⟩
    · rfl
    · rw [hgo] at hnone
      cases hnone

variable (run started)

/-- The course of a wait with positive limits, whatever its polls find and the clock shows after
them.  The first poll that decides ends the wait: each poll before it is followed by a pause of one
interval, the wait ends as `Concludes` has it, and its event, if it leaves one and a timeline is
given, is noted after all else.  The wait does not end if no poll decides. -/
theorem perform_course (looks : Nat → Look τ) (given : Bool)
    (htimeout : TimeScale.notPositive limits.timeout = false)
    (hinterval : TimeScale.notPositive limits.interval = false) :
    let script : Script τ := fun k _ => looks k
    (∀ k, (∀ j < k, ¬ Decides limits started (looks j)) → Decides limits started (looks k) →
      ∃ result events, Concludes limits run started (k + 1) (looks k) result events ∧
        ∀ moves, carriedOut script limits run started given (2 * k + 3 + moves) =
          (some result, afterwards script limits run started k given events)) ∧
    ((∀ j, ¬ Decides limits started (looks j)) →
      ∀ moves, (carriedOut script limits run started given moves).1 = none) := by
  intro script
  have hcheck := check_of_positive htimeout hinterval
  refine ⟨fun k hbefore hdecides => ?_, fun hnever moves => ?_⟩
  · exact @carriedOut_of_decides _ _ script _ run started hcheck given k hbefore hdecides
  · exact @carriedOut_of_not_decides _ _ script _ run started hcheck given hnever moves

/-- Polls that find a run pending and then, long after the deadline, succeeded. -/
def lateSuccess : Nat → Look Seconds
  | 0 => ⟨.ok .pending, .whole 1⟩
  | _ => ⟨.ok .succeeded, .whole 100⟩

/-- The success is believed: there are two polls with a pause between them, and then the event. -/
theorem lateSuccess_course :
    carriedOut (fun k _ => lateSuccess k) ⟨.whole 10, .whole 5⟩ ⟨.number 7, .null⟩ (.whole 0) true
        5 =
      (some (.ok 2), {
        now := .whole 100
        polls := 2
        acts := [.poll ⟨.number 7, .null⟩ (.whole 0), .pause (.whole 5),
          .poll ⟨.number 7, .null⟩ (.whole 6),
          .note ⟨"wait", "completed", [("run_id", .int 7), ("poll_count", .int 2)]⟩] }) := by
  have hcourse := @perform_course Seconds _ ⟨.whole 10, .whole 5⟩ ⟨.number 7, .null⟩ (.whole 0)
    lateSuccess true rfl rfl
  have hbefore : ∀ j < 1, ¬ Decides ⟨.whole 10, .whole 5⟩ (.whole 0) (lateSuccess j) := by
    intro j hj hdecides
    obtain rfl : j = 0 := by omega
    cases hdecides with
    | timedOut hreached => exact absurd hreached (by decide)
  obtain ⟨result, events, hconcludes, hends⟩ := hcourse.1 1 hbefore .succeeded
  cases hconcludes
  exact hends 0

end Teardown.Wait
