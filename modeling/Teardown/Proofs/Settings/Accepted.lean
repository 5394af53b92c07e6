import Mathlib.Tactic.Lemma
import Teardown.Proofs.Store.Commit
import Teardown.Proofs.Text.Strip
import Teardown.Settings

/-!
# Accepted settings

Settings are accepted if all of their fields are.  `draft_of_ofSource` says so once for the whole
record, and with it every field of accepted settings is the result of its own check.  A check decodes
a value and then tests it (`tested_eq_ok_iff`); there is one lemma for each check, which says what
passes it.
-/

namespace Teardown.Settings

/-! ### The draft behind accepted settings -/

/-- The draft of settings all of whose fields passed their checks. -/
def draft (s : Settings) : Draft where
  environmentName := .ok s.environmentName
  host := .ok s.host
  port := .ok s.port
  databaseUrl := .ok s.databaseUrl
  logLevel := .ok s.logLevel
  apiBaseUrl := .ok s.apiBaseUrl
  token := .ok s.token
  owner := .ok s.owner
  repository := .ok s.repository
  workflow := .ok s.workflow
  ref := .ok s.ref
  requestTimeout := .ok s.requestTimeout
  lookupAttempts := .ok s.lookupAttempts
  lookupInterval := .ok s.lookupInterval
  stopTimeout := .ok s.stopTimeout
  stopInterval := .ok s.stopInterval

variable {source : Source} {s : Settings}

/-- Settings come from a draft without any fault. -/
lemma Draft.eq_draft {d : Draft} (h : d.settings = .ok s) : d = s.draft := by
  cases d
  unfold Draft.settings at h
  repeat obtain ⟨_, rfl, h⟩ := Except.exists_of_bind_eq_ok h
  cases h
  rfl

/-- Accepted settings were read without any fault. -/
lemma draft_of_ofSource (h : ofSource source = .ok s) : Draft.ofSource source = s.draft := by
  unfold ofSource at h
  dsimp only at h
  split at h
  · rename_i hsettings
    cases h
    exact Draft.eq_draft hsettings
  · cases h

/-! ### What passes a check -/

/-- A value is allowed before it is found equal to another, or after that. -/
lemma allowed_and_eq_iff {α : Type} (allowed : α → Prop) {x y : α} :
    allowed y ∧ y = x ↔ y = x ∧ allowed x := by
  constructor
  · rintro ⟨hallowed, rfl⟩
    exact ⟨rfl, hallowed⟩
  · rintro ⟨rfl, hallowed⟩
    exact ⟨hallowed, rfl⟩

/-- A test refuses something, or it goes on. -/
lemma refusal_eq_ok_iff {α : Type} {refused : Prop} [Decidable refused] {issue : Issue}
    {rest : Except Issue α} {x : α} :
    (if refused then .error issue else rest) = .ok x ↔ ¬ refused ∧ rest = .ok x := by
  split
  · rename_i hrefused
    exact iff_of_false (fun h => by cases h) fun h => h.1 hrefused
  · rename_i hnot
    exact (and_iff_right hnot).symm

/-- A test lets pass what is allowed. -/
lemma passage_eq_ok_iff {α : Type} {allowed : Prop} [Decidable allowed] {issue : Issue} {y x : α} :
    (if allowed then .ok y else .error issue : Except Issue α) = .ok x ↔ allowed ∧ y = x := by
  rw [← ite_not, refusal_eq_ok_iff, not_not, Except.ok.injEq]

/-- What is decoded and then tested is accepted if it passes the test. -/
lemma tested_eq_ok_iff {α : Type} {decoded : Except Issue α} {test : α → Except Issue α} {x : α}
    (allowed : α → Prop) (htest : ∀ y, test y = .ok x ↔ allowed y ∧ y = x) :
    decoded.bind test = .ok x ↔ decoded = .ok x ∧ allowed x := by
  cases decoded with
  | error _ => exact iff_of_false (fun h => by cases h) fun h => by cases h.1
  | ok y =>
    rw [Except.ok.injEq]
    exact (htest y).trans (allowed_and_eq_iff allowed)

section Checks

variable (v : Json)

lemma positive_eq_ok_iff (x : Float) :
    positive v = .ok x ↔ Validation.float v = .ok x ∧ 0.0 < x :=
  tested_eq_ok_iff _ fun _ => passage_eq_ok_iff

lemma notNegative_eq_ok_iff (x : Float) :
    notNegative v = .ok x ↔ Validation.float v = .ok x ∧ 0.0 ≤ x :=
  tested_eq_ok_iff _ fun _ => passage_eq_ok_iff

lemma pauseWithin_eq_ok_iff (timeout x : Float) :
    pauseWithin (.ok timeout) v = .ok x ↔
      Validation.float v = .ok x ∧ 0.0 < x ∧ ¬ timeout < x := by
  rw [← and_assoc, ← positive_eq_ok_iff]
  refine tested_eq_ok_iff (¬ timeout < ·) fun y => refusal_eq_ok_iff.trans ?_
  exact and_congr_right' (iff_of_eq (Except.ok.injEq ..))

lemma integerFrom_eq_ok_iff (low : Nat) (high : Option Nat) (n : Int) :
    integerFrom low high v = .ok n ↔
      Validation.integer v = .ok n ∧ low ≤ n ∧ ∀ bound ∈ high, n ≤ (bound : Int) := by
  refine tested_eq_ok_iff (fun n : Int => low ≤ n ∧ ∀ bound ∈ high, n ≤ (bound : Int)) fun k => ?_
  have hlow : (if k < low then .error (.notAtLeast low) else .ok k : Except Issue Int) = .ok n ↔
      low ≤ k ∧ k = n := by
    rw [refusal_eq_ok_iff, Int.not_lt, Except.ok.injEq]
  cases high with
  | none => exact hlow.trans (by simp)
  | some bound =>
    refine refusal_eq_ok_iff.trans ((and_congr_right' hlow).trans ?_)
    simp [and_assoc, and_left_comm]

lemma level_eq_ok_iff (x : String) :
    level v = .ok x ↔
      ((Validation.text v).map fun s => Text.capitalize (Text.strip s)) = .ok x ∧
        x ∈ levelNames := by
  unfold level
  cases Validation.text v with
  | error _ => exact iff_of_false (fun h => by cases h) fun h => by cases h.1
  | ok s =>
    dsimp only [bind, Except.bind, Except.map]
    generalize Text.capitalize (Text.strip s) = name
    rw [Except.ok.injEq, ← allowed_and_eq_iff (· ∈ levelNames), ← List.contains_iff_mem]
    exact passage_eq_ok_iff

lemma inked_eq_ok_iff (x : String) :
    inked v = .ok x ↔ (Validation.text v).map Text.strip = .ok x ∧ x ≠ "" := by
  unfold inked
  cases Validation.text v with
  | error _ => exact iff_of_false (fun h => by cases h) fun h => by cases h.1
  | ok s =>
    by_cases hempty : s = ""
    · subst hempty
      refine iff_of_false (fun h => by cases h) ?_
      rintro ⟨h, hx⟩
      exact hx (Except.ok.inj h).symm
    · have hnonempty : Validation.nonempty s = .ok s :=
        if_neg fun h => hempty (String.isEmpty_iff.mp h)
      dsimp only [bind, Except.bind, Except.map]
      rw [hnonempty, Except.ok.injEq, ← allowed_and_eq_iff (· ≠ "")]
      exact refusal_eq_ok_iff.trans (and_congr_right' (iff_of_eq (Except.ok.injEq ..)))

end Checks

variable {v : Json}

/-- A text without blank characters around it, and with something in it. -/
structure Inked (text : String) : Prop where
  stripped : Text.strip text = text
  nonempty : text ≠ ""

/-- A text that is checked for ink is stripped and not empty. -/
lemma inked_of_inked {text : String} (h : inked v = .ok text) : Inked text := by
  obtain ⟨hstrip, hink⟩ := (inked_eq_ok_iff v text).mp h
  obtain ⟨given, _, rfl⟩ := Except.exists_of_map_eq_ok hstrip
  exact ⟨Text.strip_strip given, hink⟩

/-- Settings that were accepted hold a longest wait and a pause above zero. -/
lemma spans_pos (h : ofSource source = .ok s) : 0.0 < s.stopTimeout ∧ 0.0 < s.stopInterval := by
  have hdraft := draft_of_ofSource h
  obtain ⟨_, _, htimeout⟩ := Except.exists_of_bind_eq_ok (congrArg Draft.stopTimeout hdraft)
  obtain ⟨_, _, hinterval⟩ := Except.exists_of_bind_eq_ok (congrArg Draft.stopInterval hdraft)
  exact ⟨((positive_eq_ok_iff ..).mp htimeout).2, ((pauseWithin_eq_ok_iff ..).mp hinterval).2.1⟩

end Teardown.Settings
