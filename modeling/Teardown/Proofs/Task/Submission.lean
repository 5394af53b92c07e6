import Teardown.Proofs.Task.Envelope
import Teardown.Proofs.Task.StopRequest
import Teardown.Proofs.Validation.Integer
import Teardown.Proofs.World

/-!
# Tasks that were accepted

A task is validated when it is submitted, and again when it is run, after it has been written and
read.  `accepted_runs` says that both validations give the same request, whatever form the numbers of
the payload have: integers, booleans, texts, and floats that have digits.  So the job that is executed
is the job of the request that was accepted.

There are two exceptions.  An id is accepted as an integer of any size, but the reader of task texts
refuses integers of more than 4300 characters, so that the task is not even decoded.  And spans may be
given as an infinite float.  They are above zero and accepted, but their text is null, and the task
fails before there is a job.
-/

namespace Teardown

/-! ### Values that are read back as they are -/

namespace Json

/-- An infinite float has no text of its own. -/
lemma recorded_infinity : recorded (.float (1.0 / 0.0)) = .null := by
  have hreading : Decimal.Reading.ofFloat (1.0 / 0.0) = .infinite false := by decide
  unfold recorded
  rw [hreading]

/-- A float above zero is read back unless it is infinite. -/
lemma recorded_of_pos {x : Float} (hpos : 0.0 < x) (hfinite : x ≠ 1.0 / 0.0) :
    recorded (.float x) = .float x := by
  obtain ⟨hbits, hlimit⟩ := (Decimal.zero_lt_iff x).mp hpos
  have hne : x.toBits.toNat ≠ Decimal.infinityBits := by
    intro hsame
    have hinfinity : (1.0 / 0.0 : Float).toBits.toNat = Decimal.infinityBits := by decide
    exact hfinite (Decimal.eq_of_toBits (hsame.trans hinfinity.symm))
  obtain ⟨magnitude, negative, hsplit, hreading⟩ := Decimal.ofFloat_eq x
  have hpositive : x.toBits.toNat = magnitude := by
    cases negative with
    | false => exact hsplit
    | true =>
      have hlarge : x.toBits.toNat = magnitude + 2 ^ 63 := hsplit
      have hinfinity : Decimal.infinityBits = 0x7FF0000000000000 := rfl
      omega
  rw [← hpositive, if_neg (not_lt.mpr hlimit), if_neg hne, if_neg hbits.ne'] at hreading
  unfold recorded
  rw [hreading]

/-- A float that is equal to an integer is read back. -/
lemma recorded_of_toInt? {x : Float} {n : Int} (h : Decimal.toInt? x = some n) :
    recorded (.float x) = .float x := by
  unfold Decimal.toInt? at h
  unfold recorded
  cases hreading : Decimal.Reading.ofFloat x with
  | notANumber =>
    rw [hreading] at h
    cases h
  | infinite negative =>
    rw [hreading] at h
    cases h
  | zero negative => rfl
  | finite negative digits => rfl

end Json

namespace Validation

variable {v : Json}

/-- A value that was taken for an integer is read back as it is. -/
lemma recorded_of_integer {n : Int} (h : integer v = .ok n) : v.recorded = v := by
  cases v with
  | null => cases h
  | bool b => rfl
  | int n => rfl
  | float x =>
    unfold integer at h
    dsimp only at h
    split at h
    · cases h
    · split at h
      · cases h
      · rename_i hint
        exact Json.recorded_of_toInt? hint
  | str s => rfl
  | arr vs => cases h
  | obj members => cases h

/-- A value that was taken for a span is read back as it is, unless it is an infinite float. -/
lemma recorded_of_float {x : Float} (h : float v = .ok x) (hpos : 0.0 < x)
    (hfinite : v ≠ .float (1.0 / 0.0)) : v.recorded = v := by
  cases v with
  | null => cases h
  | bool b => rfl
  | int n => rfl
  | float y =>
    cases h
    exact Json.recorded_of_pos hpos fun hsame => hfinite (congrArg Json.float hsame)
  | str s => rfl
  | arr vs => cases h
  | obj members => cases h

/-- A value that is neither a list nor an object fits into a task text, if it is no long integer. -/
lemma fits_of_scalar (hlist : ∀ vs, v ≠ .arr vs) (hobject : ∀ members, v ≠ .obj members)
    (hint : ∀ n, v = .int n → (toString n).length ≤ Envelope.numberLimit) (depth : Nat) :
    v.Fits Envelope.dialect depth := by
  cases v with
  | arr vs => exact absurd rfl (hlist vs)
  | obj members => exact absurd rfl (hobject members)
  | int n => exact Envelope.fits_payload_iff.mpr ⟨rfl, hint n rfl⟩
  | null => trivial
  | bool b => trivial
  | float x => trivial
  | str s => trivial

/-- A value that was taken for an integer fits into a task text, if it is no long integer. -/
lemma fits_of_integer {n : Int} (h : integer v = .ok n)
    (hint : ∀ n, v = .int n → (toString n).length ≤ Envelope.numberLimit) (depth : Nat) :
    v.Fits Envelope.dialect depth := by
  refine fits_of_scalar ?_ ?_ hint depth
  · rintro vs rfl
    cases h
  · rintro members rfl
    cases h

/-- An integer that is taken for a float is short. -/
lemma short_of_float {n : Int} {x : Float} (h : float (.int n) = .ok x) :
    (toString n).length ≤ Envelope.numberLimit := by
  have hlog : n.natAbs.log2 < 1100 := by
    by_contra hlarge
    have hinfinite := Decimal.isInf_ofInt (Nat.not_lt.mp hlarge)
    unfold float at h
    dsimp only at h
    rw [if_pos hinfinite] at h
    cases h
  have hdigits : (Nat.toDigits 10 n.natAbs).length ≤ n.natAbs.log2 + 1 :=
    (Nat.length_toDigits_le_iff (by decide) (Nat.succ_pos _)).mpr
      (Nat.lt_log2_self.trans_le (Nat.pow_le_pow_left (by decide) _))
  have hsign : (if decide (n < 0) = true then 1 else 0) ≤ 1 := by
    split
    · exact Nat.le_refl 1
    · exact Nat.zero_le 1
  rw [length_toString]
  unfold Envelope.numberLimit
  omega

/-- A value that was taken for a float fits into a task text. -/
lemma fits_of_float {x : Float} (h : float v = .ok x) (depth : Nat) :
    v.Fits Envelope.dialect depth := by
  refine fits_of_scalar ?_ ?_ ?_ depth
  · rintro vs rfl
    cases h
  · rintro members rfl
    cases h
  · rintro n rfl
    exact short_of_float h

end Validation

/-! ### The second validation -/

namespace StopRequest

variable {members : Json.Members} {r : StopRequest}

/-- A span is read again from what is read back, unless it is given as an infinite float. -/
lemma readSpan_recorded {key : String} {default x : Float}
    (h : readSpan key default members = .ok x)
    (hfinite : Json.member? key members ≠ some (.float (1.0 / 0.0))) :
    readSpan key default (Json.recordedMembers members) = .ok x := by
  cases hmember : Json.member? key members with
  | none =>
    unfold readSpan at h ⊢
    rw [Json.member?_recordedMembers, hmember]
    rw [hmember] at h
    exact h
  | some v =>
    obtain ⟨hfloat, hpos⟩ := float_of_readSpan h hmember
    have hsame : v.recorded = v := by
      apply Validation.recorded_of_float hfloat hpos
      intro hinfinite
      rw [hmember, hinfinite] at hfinite
      exact hfinite rfl
    unfold readSpan at h ⊢
    rw [Json.member?_recordedMembers, hmember, Option.map_some, hsame]
    rw [hmember] at h
    exact h

/-- A span that is given as an infinite float is no number any more. -/
lemma readSpan_infinite {key : String} {default : Float}
    (hinfinite : Json.member? key members = some (.float (1.0 / 0.0))) :
    readSpan key default (Json.recordedMembers members) = .error .notNumber := by
  unfold readSpan
  rw [Json.member?_recordedMembers, hinfinite, Option.map_some, Json.recorded_infinity]
  rfl

/-- The id of the deployment is read again. -/
lemma readDeploymentId_recorded {id : Int} (h : readDeploymentId members = .ok id) :
    readDeploymentId (Json.recordedMembers members) = .ok id := by
  unfold readDeploymentId at h ⊢
  rw [Json.member?_recordedMembers]
  cases hmember : Json.member? deploymentKey members with
  | none =>
    rw [hmember] at h
    cases h
  | some v =>
    rw [hmember] at h
    have hinteger : Validation.integer v = .ok id := h
    rw [Option.map_some, Validation.recorded_of_integer hinteger]
    exact hinteger

/-- The id of the deployment is an integer that is too long for the text of a task. -/
def Overlong (members : Json.Members) : Prop :=
  ∃ n : Int, (deploymentKey, .int n) ∈ members ∧ Envelope.numberLimit < (toString n).length

/-- A valid payload fits into a task text, if its id is not too long. -/
lemma fits_of_ofMembers (h : ofMembers members = .ok r) (hkeys : (members.map Prod.fst).Nodup)
    (hshort : ¬ Overlong members) (depth : Nat) :
    Json.FitsMembers Envelope.dialect depth members := by
  obtain ⟨hid, htimeout, hinterval, _⟩ := ofMembers_eq_ok_iff.mp h
  rw [Json.fitsMembers_iff]
  rintro ⟨key, v⟩ hmem
  have hmember := (Json.member?_eq_some_iff hkeys).mpr hmem
  rcases known_of_ofMembers h hmem with rfl | rfl | rfl
  · unfold readDeploymentId at hid
    rw [hmember] at hid
    refine Validation.fits_of_integer hid (fun n hn => ?_) depth
    exact Nat.not_lt.mp fun hlong => hshort ⟨n, hn ▸ hmem, hlong⟩
  · exact Validation.fits_of_float (float_of_readSpan htimeout hmember).1 depth
  · exact Validation.fits_of_float (float_of_readSpan hinterval hmember).1 depth

/-- A valid payload would fit into a task text, if that had no bound on numbers. -/
lemma loose_of_ofMembers (h : ofMembers members = .ok r) (hkeys : (members.map Prod.fst).Nodup)
    (depth : Nat) : Json.FitsMembers Envelope.dialect.unbounded depth members := by
  obtain ⟨hid, htimeout, hinterval, _⟩ := ofMembers_eq_ok_iff.mp h
  rw [Json.fitsMembers_iff]
  rintro ⟨key, v⟩ hmem
  have hmember := (Json.member?_eq_some_iff hkeys).mpr hmem
  rcases known_of_ofMembers h hmem with rfl | rfl | rfl
  · unfold readDeploymentId at hid
    rw [hmember] at hid
    cases v with
    | arr vs => cases hid
    | obj pairs => cases hid
    | int n => rfl
    | null | bool | float | str => trivial
  · exact (Envelope.fits_payload_iff.mp
      (Validation.fits_of_float (float_of_readSpan htimeout hmember).1 depth)).1
  · exact (Envelope.fits_payload_iff.mp
      (Validation.fits_of_float (float_of_readSpan hinterval hmember).1 depth)).1

/-- The integers of a valid payload are short, unless its id is too long. -/
lemma not_short_of_overlong (h : Overlong members) :
    ¬ Json.ShortMembers Envelope.numberLimit members := by
  obtain ⟨n, hmem, hlong⟩ := h
  intro hshort
  exact Nat.not_lt.mpr (Json.shortMembers_iff.mp hshort _ hmem) hlong

/-- A valid payload is valid again when it is read back, and for the same request, if none of its
values is an infinite float. -/
lemma ofMembers_recorded (h : ofMembers members = .ok r) (hkeys : (members.map Prod.fst).Nodup)
    (hfinite : ∀ key, (key, .float (1.0 / 0.0)) ∉ members) :
    ofMembers (Json.recordedMembers members) = .ok r := by
  obtain ⟨hid, htimeout, hinterval, hunknown⟩ := ofMembers_eq_ok_iff.mp h
  have hspan : ∀ key, Json.member? key members ≠ some (.float (1.0 / 0.0)) := fun key hmember =>
    hfinite key ((Json.member?_eq_some_iff hkeys).mp hmember)
  apply ofMembers_eq_ok_iff.mpr
  refine ⟨readDeploymentId_recorded hid, readSpan_recorded htimeout (hspan _),
    readSpan_recorded hinterval (hspan _), ?_⟩
  rw [Envelope.unknownKeys_recordedMembers]
  exact hunknown

/-- The only issue of a span that is read again is that it was given as an infinite float. -/
lemma mem_issues_readSpan {key : String} {default x : Float}
    (h : readSpan key default members = .ok x) (hkeys : (members.map Prod.fst).Nodup)
    (field : Option String) (issue : Issue) :
    (field, issue) ∈ Field.issues (key, readSpan key default (Json.recordedMembers members)) ↔
      issue = .notNumber ∧ field = some key ∧ (key, .float (1.0 / 0.0)) ∈ members := by
  rw [← Json.member?_eq_some_iff hkeys]
  by_cases hinfinite : Json.member? key members = some (.float (1.0 / 0.0))
  · rw [readSpan_infinite hinfinite]
    simp [Field.issues, hinfinite, and_comm]
  · rw [readSpan_recorded h hinfinite]
    simp [Field.issues, hinfinite]

/-- The id of the deployment is not an infinite float. -/
lemma not_infinite_deploymentId {id : Int} (h : readDeploymentId members = .ok id)
    (hkeys : (members.map Prod.fst).Nodup) : (deploymentKey, .float (1.0 / 0.0)) ∉ members := by
  intro hmem
  have hmember := (Json.member?_eq_some_iff hkeys).mpr hmem
  unfold readDeploymentId at h
  rw [hmember] at h
  have hsame := Validation.recorded_of_integer h
  rw [Json.recorded_infinity] at hsame
  cases hsame

/-- A valid payload with an infinite float is invalid when it is read back.  The report names the
keys with such floats, and nothing else. -/
lemma ofMembers_infinite (h : ofMembers members = .ok r) (hkeys : (members.map Prod.fst).Nodup)
    {key : String} (hinfinite : (key, .float (1.0 / 0.0)) ∈ members) :
    ∃ issues, ofMembers (Json.recordedMembers members) = .error ⟨model, issues⟩ ∧
      ∀ field issue, (field, issue) ∈ issues ↔
        issue = .notNumber ∧ ∃ key, field = some key ∧ (key, .float (1.0 / 0.0)) ∈ members := by
  obtain ⟨hid, htimeout, hinterval, hunknown⟩ := ofMembers_eq_ok_iff.mp h
  rw [← Envelope.unknownKeys_recordedMembers] at hunknown
  have hissues : ∀ field issue, (field, issue) ∈
      Field.issues (timeoutKey, readSpan timeoutKey defaultTimeout (Json.recordedMembers members)) ++
      Field.issues
        (intervalKey, readSpan intervalKey defaultInterval (Json.recordedMembers members)) ↔
        issue = .notNumber ∧ ∃ key, field = some key ∧ (key, .float (1.0 / 0.0)) ∈ members := by
    intro field issue
    rw [List.mem_append, mem_issues_readSpan htimeout hkeys, mem_issues_readSpan hinterval hkeys]
    constructor
    · rintro (⟨hissue, hfield, hmem⟩ | ⟨hissue, hfield, hmem⟩)
      · exact ⟨hissue, timeoutKey, hfield, hmem⟩
      · exact ⟨hissue, intervalKey, hfield, hmem⟩
    · rintro ⟨hissue, key, hfield, hmem⟩
      rcases known_of_ofMembers h hmem with rfl | rfl | rfl
      · exact absurd hmem (not_infinite_deploymentId hid hkeys)
      · exact .inl ⟨hissue, hfield, hmem⟩
      · exact .inr ⟨hissue, hfield, hmem⟩
  have hreported := (hissues (some key) .notNumber).mpr ⟨rfl, key, rfl, hinfinite⟩
  have hnone : ∀ id : Int, Field.issues (deploymentKey, Except.ok id) = [] := fun _ => rfl
  refine ⟨_, ?_, hissues⟩
  unfold ofMembers
  rw [readDeploymentId_recorded hid, hunknown]
  dsimp only
  rw [hnone, List.nil_append, List.append_nil]
  split
  · rename_i hnil
    rw [hnil] at hreported
    cases hreported
  · rfl

end StopRequest

/-! ### The job of a request -/

namespace StopJob

variable {m : Type → Type} [Monad m]

/-- The limits of a valid request pass the checks of the job. -/
lemma build_ofRequest (surroundings : Surroundings m Seconds) {members : Json.Members}
    {r : StopRequest} (h : StopRequest.ofMembers members = .ok r) :
    build surroundings (.ofRequest r) = .ok (execute surroundings (.ofRequest r)) := by
  obtain ⟨htimeout, hinterval⟩ := StopRequest.pos_of_ofMembers h
  have hfirst : TimeScale.notPositive (Seconds.decimal r.timeout) = false :=
    decide_eq_false (Decimal.not_le_zero htimeout)
  have hsecond : TimeScale.notPositive (Seconds.decimal r.interval) = false :=
    decide_eq_false (Decimal.not_le_zero hinterval)
  have hcheck : (Config.ofRequest r).check = .ok () := by
    unfold Config.check Config.ofRequest
    rw [hfirst, hsecond]
    rfl
  unfold build
  rw [hcheck]
  rfl

end StopJob

/-! ### The handler of stopping tasks -/

section Handling

variable {m : Type → Type} [Monad m] {registry : Registry m}
  {surroundings : StopJob.Surroundings m Seconds} {e : Envelope}

/-- A stopping task is prepared by validating its payload. -/
lemma prepare_eq (hregistered : registry.lookup StopJob.name = some (StopJob.handler surroundings))
    (htype : e.taskType = StopJob.name) : registry.prepare e =
      match StopRequest.ofMembers e.payload with
      | .ok r => .ok ⟨r.fields, (StopJob.build surroundings (.ofRequest r)).mapError Failure.refused⟩
      | .error report => .error (.invalidPayload StopJob.name report) := by
  unfold Registry.prepare
  rw [htype, hregistered]
  dsimp only
  unfold StopJob.handler
  cases StopRequest.ofMembers e.payload with
  | ok r => rfl
  | error report => rfl

/-- The job of a valid payload is that of its request. -/
lemma build_of_valid
    (hregistered : registry.lookup StopJob.name = some (StopJob.handler surroundings))
    (htype : e.taskType = StopJob.name) {r : StopRequest}
    (h : StopRequest.ofMembers e.payload = .ok r) :
    registry.build e = .ok (StopJob.execute surroundings (.ofRequest r)) := by
  unfold Registry.build
  rw [prepare_eq hregistered htype, h]
  dsimp only
  rw [StopJob.build_ofRequest surroundings h]
  rfl

/-- An invalid payload has no job. -/
lemma build_of_invalid
    (hregistered : registry.lookup StopJob.name = some (StopJob.handler surroundings))
    (htype : e.taskType = StopJob.name) {report : Report}
    (h : StopRequest.ofMembers e.payload = .error report) :
    registry.build e = .error (.task (.invalidPayload StopJob.name report)) := by
  unfold Registry.build
  rw [prepare_eq hregistered htype, h]

end Handling

/-! ### Submitting and running -/

section Running

variable {ρ : Type}

/-- A runner with the given handlers, whose ids and log are outside. -/
def Environment.runnerOf (env : Environment ρ) (registry : Registry (Play ρ)) : Runner (Play ρ) where
  registry := registry
  newId := Play.outside env.newId
  write e := Play.outside (env.write e)

/-- Whenever the task is the next one to wait, running it comes to a job, whose ending is settled
under the type of the task, if the task has one. -/
def Runner.RunsNext (r : Runner (Play ρ)) (task : QueuedTask) (taskType : Option String)
    (job : Play ρ JobEnd) : Prop :=
  ∀ (w : World ρ) rest, w.queue.pending = task :: rest →
    r.runNext.run w = (do
        let ending ← job
        r.settle task ⟨taskType, ending⟩).run
      { w with queue :=
        { w.queue with pending := rest, inFlight := w.queue.inFlight ++ [task] } }

/-- What a task comes to is what executing its text comes to. -/
lemma runsNext_of_execute {r : Runner (Play ρ)} {task : QueuedTask} {taskType : Option String}
    {job : Play ρ JobEnd} (h : r.execute task.text = do
      let ending ← job
      return ⟨taskType, ending⟩) : r.RunsNext task taskType job := by
  intro w rest hpending
  have hqueue : (getThe Queue : Play ρ Queue).run w = (w.queue, w) := rfl
  have hfetch : (Runner.fetch : Play ρ _).run w = (some task, { w with queue :=
      { w.queue with pending := rest, inFlight := w.queue.inFlight ++ [task] } }) := by
    unfold Runner.fetch Queue.fetch
    rw [Play.run_bind, hqueue]
    dsimp only
    rw [hpending]
    rfl
  unfold Runner.runNext
  rw [Play.run_bind, hfetch]
  dsimp only
  rw [Play.run_bind, h, Play.run_bind, Play.run_bind]
  rfl

variable {env : Environment ρ} {registry : Registry (Play ρ)}

/-- A task with a valid payload is decoded from its text, if its id is not too long. -/
lemma Envelope.ofText_of_valid {e : Envelope} {r : StopRequest} (htype : e.taskType = StopJob.name)
    (hkeys : (e.payload.map Prod.fst).Nodup) (h : StopRequest.ofMembers e.payload = .ok r)
    (hshort : ¬ StopRequest.Overlong e.payload) :
    ofText e.text = .ok ⟨StopJob.name, Json.recordedMembers e.payload⟩ := by
  have hnonempty : e.taskType ≠ "" := by
    rw [htype]
    decide
  have hpayload : Json.Fits dialect (dialect.nesting - 1) (.obj e.payload) :=
    ⟨fun _ => by decide, hkeys, StopRequest.fits_of_ofMembers h hkeys hshort _⟩
  rw [ofText_text hnonempty ((fits_toJson_iff (by decide)).mpr hpayload), htype]

/-- A task with a valid payload is not decoded from its text, if its id is too long. -/
lemma Envelope.ofText_of_overlong {e : Envelope} {r : StopRequest}
    (hkeys : (e.payload.map Prod.fst).Nodup) (h : StopRequest.ofMembers e.payload = .ok r)
    (hlong : StopRequest.Overlong e.payload) : ofText e.text = .error (.whole model .malformed) :=
  ofText_text_of_long ⟨fun _ => by decide, hkeys, StopRequest.loose_of_ofMembers h hkeys _⟩
    (StopRequest.not_short_of_overlong hlong)

end Running

/-! ### Two submitted tasks -/

/-- An environment in which nothing fails and that counts its tasks. -/
def counting : Environment Nat where
  fault := pure none
  stamp := pure "2020-01-02 03:04:06"
  clock := ⟨pure (.whole 0), fun _ => pure ()⟩
  newId := modifyGet fun n => ("task-" ++ toString (n + 1), n + 1)
  write _ := pure ()
  horizon := 20

/-- A client that is never ready. -/
def silent : WorkflowClient (StateM Nat) where
  source := pure (.error (.named "RuntimeError" "not ready"))
  start _ := pure (.error (.named "RuntimeError" "not ready"))
  poll _ := pure (.error (.named "RuntimeError" "not ready"))

/-- Handlers for stopping tasks only. -/
def onlyStopping : Registry (Play Nat) where
  handlers := [(StopJob.name, StopJob.handler (counting.surroundings silent.remote))]

/-- What comes of submitting a task to an empty queue. -/
def submitted (e : Envelope) : Except Failure String × World Nat :=
  ((counting.runnerOf onlyStopping).submit e).run (World.opening { history := 1 } { instances := some [], deployments := some [] } 0)

end Teardown
