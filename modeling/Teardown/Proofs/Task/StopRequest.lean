import Mathlib.Tactic.Lemma
import Teardown.Task.StopRequest

/-!
# What a valid request has

`ofMembers` reads three fields and refuses all other keys.  `ofMembers_eq_ok_iff` takes a successful
reading apart into the readings of the fields, `known_of_ofMembers` says which keys a valid payload
has, and `pos_of_ofMembers` that both spans of a valid request are above zero.
-/

namespace Teardown.StopRequest

variable {members : Json.Members} {r : StopRequest}

/-- A request is valid if and only if each field is, and there are no other keys. -/
lemma ofMembers_eq_ok_iff :
    ofMembers members = .ok r ↔ readDeploymentId members = .ok r.deploymentId ∧
      readSpan timeoutKey defaultTimeout members = .ok r.timeout ∧
      readSpan intervalKey defaultInterval members = .ok r.interval ∧
      Envelope.unknownKeys [deploymentKey, timeoutKey, intervalKey] members = [] := by
  unfold ofMembers
  cases hid : readDeploymentId members with
  | error issue => simp [Field.issues]
  | ok id =>
    cases htimeout : readSpan timeoutKey defaultTimeout members with
    | error issue => simp [Field.issues]
    | ok timeout =>
      cases hinterval : readSpan intervalKey defaultInterval members with
      | error issue => simp [Field.issues]
      | ok interval =>
        cases Envelope.unknownKeys [deploymentKey, timeoutKey, intervalKey] members with
        | nil =>
          obtain ⟨id', timeout', interval'⟩ := r
          simp [Field.issues]
        | cons issue issues => simp [Field.issues]

/-- A span that was read is the value of its member, which is above zero. -/
lemma float_of_readSpan {key : String} {default x : Float} {v : Json}
    (h : readSpan key default members = .ok x) (hmember : Json.member? key members = some v) :
    Validation.float v = .ok x ∧ 0.0 < x := by
  unfold readSpan at h
  rw [hmember] at h
  cases hfloat : Validation.float v with
  | error issue =>
    simp only [hfloat] at h
    cases h
  | ok y =>
    simp only [hfloat] at h
    have hpositive : Validation.positive y = .ok x := h
    unfold Validation.positive at hpositive
    split at hpositive
    · rename_i hpos
      cases hpositive
      exact ⟨rfl, hpos⟩
    · cases hpositive

/-- A span that was read is above zero, if its default is. -/
lemma pos_of_readSpan {key : String} {default x : Float} (hdefault : 0.0 < default)
    (h : readSpan key default members = .ok x) : 0.0 < x := by
  cases hmember : Json.member? key members with
  | none =>
    unfold readSpan at h
    rw [hmember] at h
    cases h
    exact hdefault
  | some v => exact (float_of_readSpan h hmember).2

/-- Both spans of a valid request are above zero. -/
lemma pos_of_ofMembers (h : ofMembers members = .ok r) : 0.0 < r.timeout ∧ 0.0 < r.interval := by
  obtain ⟨_, htimeout, hinterval, _⟩ := ofMembers_eq_ok_iff.mp h
  exact ⟨pos_of_readSpan (by decide) htimeout, pos_of_readSpan (by decide) hinterval⟩

/-- A valid payload has no keys but those of the three fields. -/
lemma known_of_ofMembers (h : ofMembers members = .ok r) {key : String} {v : Json}
    (hmember : (key, v) ∈ members) :
    key = deploymentKey ∨ key = timeoutKey ∨ key = intervalKey := by
  obtain ⟨_, _, _, hunknown⟩ := ofMembers_eq_ok_iff.mp h
  unfold Envelope.unknownKeys at hunknown
  rw [List.map_eq_nil_iff, List.filter_eq_nil_iff] at hunknown
  have hknown : [deploymentKey, timeoutKey, intervalKey].contains key = true := by
    simpa only [Bool.not_eq_true', Bool.not_eq_false] using hunknown (key, v) hmember
  simpa using hknown

end Teardown.StopRequest
