import Teardown.Proofs.Json.Length
import Teardown.Task.Envelope

/-!
# Task texts are read back

The text of a task is decoded to the same type, and to what is read back of its payload:
`ofText_text`.  A task with an integer that is too long is written as well, but its text is not
decoded: `ofText_text_of_long`.
-/

namespace Teardown

namespace Json

/-! ### Members of an object -/

/-- A member is read back under its key. -/
lemma member?_recordedMembers (key : String) (members : Members) :
    member? key (recordedMembers members) = (member? key members).map recorded := by
  induction members with
  | nil => rfl
  | cons member rest ih =>
    obtain ⟨k, v⟩ := member
    unfold member? at ih ⊢
    rw [recordedMembers, List.lookup_cons, List.lookup_cons]
    split
    · rfl
    · exact ih

/-- With distinct keys, every member is found under its key. -/
lemma member?_eq_some_iff {key : String} {v : Json} {members : Members}
    (hnodup : (members.map Prod.fst).Nodup) : member? key members = some v ↔ (key, v) ∈ members := by
  induction members with
  | nil =>
    constructor
    · intro h
      cases h
    · intro h
      cases h
  | cons member rest ih =>
    obtain ⟨k, w⟩ := member
    obtain ⟨hnew, hrest⟩ := List.nodup_cons.mp hnodup
    unfold member? at ih ⊢
    rw [List.lookup_cons, List.mem_cons]
    by_cases hkey : key = k
    · subst hkey
      have hnot : (key, v) ∉ rest := fun h => hnew (List.mem_map.mpr ⟨(key, v), h, rfl⟩)
      simp [hnot, eq_comm]
    · have hne : (key == k) = false := beq_eq_false_iff_ne.mpr hkey
      rw [hne, ih hrest]
      simp [hkey]

end Json

namespace Envelope

/-- Which keys are unknown depends on the keys alone. -/
lemma unknownKeys_eq (fields : List String) (members : Json.Members) :
    unknownKeys fields members =
      ((members.map Prod.fst).filter fun key => !fields.contains key).map fun key =>
        (some key, .unknownKey) := by
  unfold unknownKeys
  rw [List.filter_map, List.map_map]
  rfl

/-- Reading back makes no key unknown. -/
lemma unknownKeys_recordedMembers (fields : List String) (members : Json.Members) :
    unknownKeys fields (Json.recordedMembers members) = unknownKeys fields members := by
  rw [unknownKeys_eq, unknownKeys_eq, Json.keys_recordedMembers]

/-- What reads the text of a task, reads its characters. -/
lemma ofText_of_readChars {text : String} {fault : Json.Fault}
    (h : Json.readChars dialect text.toList = .error fault) :
    ofText text = .error (.whole model .malformed) := by
  unfold ofText Json.read?
  rw [h]
  rfl

/-- The text of a task is decoded to its type and to what is read back of its payload. -/
theorem ofText_text {e : Envelope} (htype : e.taskType ≠ "")
    (hfits : Json.Fits dialect dialect.nesting e.toJson) :
    ofText e.text = .ok ⟨e.taskType, Json.recordedMembers e.payload⟩ := by
  have hread : Json.readChars dialect e.text.toList = .ok e.toJson.recorded :=
    Json.readChars_compact hfits
  have hrecorded : e.toJson.recorded =
      .obj [("task_type", .str e.taskType), ("payload", .obj (Json.recordedMembers e.payload))] := rfl
  have hnonempty : Validation.nonempty e.taskType = .ok e.taskType := by
    unfold Validation.nonempty
    rw [if_neg (by simpa using htype)]
  have htaskType : readTaskType [("task_type", .str e.taskType),
      ("payload", .obj (Json.recordedMembers e.payload))] = .ok e.taskType := hnonempty
  unfold ofText Json.read?
  rw [hread, hrecorded]
  dsimp only [Except.toOption]
  unfold ofMembers
  rw [htaskType]
  rfl

/-! ### The bounds of task texts -/

section Bounds

variable {e : Envelope}

/-- A payload that fits inside of a task makes a task that fits. -/
lemma fits_toJson_iff {d : Json.Dialect} (hnesting : 1 < d.nesting) :
    e.toJson.Fits d d.nesting ↔ Json.Fits d (d.nesting - 1) (.obj e.payload) := by
  have hkeys : ["task_type", "payload"].Nodup := by decide
  constructor
  · rintro ⟨-, -, -, hpayload, -⟩
    exact hpayload
  · intro hpayload
    exact ⟨fun _ => by omega, hkeys, trivial, hpayload, trivial⟩

/-- A payload fits into a task text, if it is not nested too deeply, has no key twice in an object
and no integer that is too long. -/
lemma fits_payload_iff {depth : Nat} {v : Json} :
    Json.Fits dialect depth v ↔ Json.Fits dialect.unbounded depth v ∧ Json.Short numberLimit v :=
  Json.fits_iff_short rfl rfl depth v

/-- A task with an integer that is too long is not decoded from its text, whatever else holds. -/
theorem ofText_text_of_long
    (hloose : Json.Fits dialect.unbounded (dialect.nesting - 1) (.obj e.payload))
    (hlong : ¬ Json.ShortMembers numberLimit e.payload) :
    ofText e.text = .error (.whole model .malformed) := by
  have htask : e.toJson.Fits dialect.unbounded dialect.nesting :=
    (fits_toJson_iff (d := dialect.unbounded) (by decide)).mpr hloose
  cases hread : Json.readChars dialect e.text.toList with
  | error fault => exact ofText_of_readChars hread
  | ok u =>
    have hfits := (Json.readChars_compact_iff htask).mp ⟨u, hread⟩
    exact absurd (fits_payload_iff.mp ((fits_toJson_iff (by decide)).mp hfits)).2 hlong

end Bounds

end Envelope

end Teardown
