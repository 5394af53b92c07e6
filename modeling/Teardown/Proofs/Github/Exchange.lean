import Mathlib.Tactic.Lemma
import Teardown.Github.Client
import Teardown.Proofs.Json.RoundTrip
import Teardown.Proofs.Store.Commit

/-!
# What exchanges say

The client reads three kinds of answers: `Lists` is an accepted list of runs, `Describes` an
accepted description of one run, and `Accepted` any answer with a 2xx status.  The lemmas say that a
reading of the client that succeeds has one of these behind it, whatever the body looks like, and
that it fails where the exchange is `Unusable`.  It fails as a call then, but for one case: the body
of an accepted answer `Overflows` if it is nested deeper than the stack of its reader allows, and the
failure of the reader is passed on as it is.
`Fresh` is the test by which a start recognizes its run, and `Message.Asks` says what is sent.
-/

namespace Teardown.Github

/-! ### Messages -/

/-- A message of an account to a path of the service. -/
structure Message.Asks (m : Message) (a : Account) (method path : String)
    (query : List (String × String)) (body : Option Json) : Prop where
  method : m.method = method
  url : a.base.target path query = .ok m.url
  body : m.body = body.map Json.compact

/-- What is sent for a request asks for it. -/
lemma Account.message_asks {a : Account} {r : Request} {m : Message} (h : a.message r = .ok m) :
    m.Asks a r.method.name r.path r.query r.body := by
  obtain ⟨url, hurl, rfl⟩ := Except.exists_of_map_eq_ok h
  exact ⟨rfl, hurl, rfl⟩

/-! ### Answers -/

/-- A response with a 2xx status. -/
def Response.Accepted (r : Response) : Prop :=
  200 ≤ r.status ∧ r.status < 300

/-- The value that is read from the body of a response, if one is. -/
def Response.json? (r : Response) : Option Json :=
  r.read.toOption

/-- What is read is the value of the body. -/
lemma Response.json?_eq_some_iff {r : Response} {v : Json} :
    r.json? = some v ↔ r.read = .ok v := by
  unfold Response.json?
  cases r.read with
  | error fault => exact ⟨nofun, nofun⟩
  | ok u => simp [Except.toOption]

/-- An exchange that was answered with a 2xx status. -/
def Accepted (x : Exchange) : Prop :=
  ∃ r, x = .ok r ∧ r.Accepted

/-- An exchange that was answered with a 2xx status and an object. -/
def Describes (x : Exchange) (members : Json.Members) : Prop :=
  ∃ r, x = .ok r ∧ r.Accepted ∧ r.json? = some (.obj members)

/-- An exchange that was answered with a 2xx status and a list of runs. -/
def Lists (x : Exchange) (runs : List ListedRun) : Prop :=
  ∃ members entries, Describes x members ∧
    Json.member? "workflow_runs" members = some (.arr entries) ∧
    runs = entries.filterMap ListedRun.ofJson?

lemma Describes.answered {x : Exchange} {members : Json.Members} (h : Describes x members) :
    ∃ r, x = .ok r := by
  obtain ⟨r, hx, _⟩ := h
  exact ⟨r, hx⟩

lemma Lists.answered {x : Exchange} {runs : List ListedRun} (h : Lists x runs) :
    ∃ r, x = .ok r := by
  obtain ⟨_, _, hdescribes, _⟩ := h
  exact hdescribes.answered

/-- An exchange describes one run at most. -/
lemma Describes.unique {x : Exchange} {members members' : Json.Members} (h : Describes x members)
    (h' : Describes x members') : members' = members := by
  obtain ⟨response, rfl, _, hjson⟩ := h
  obtain ⟨response', hx, _, hjson'⟩ := h'
  obtain rfl := Except.ok.inj hx
  exact (Json.obj.inj (Option.some.inj (hjson.symm.trans hjson'))).symm

/-- A response lists one list of runs at most. -/
lemma Lists.unique {x : Exchange} {runs runs' : List ListedRun} (h : Lists x runs)
    (h' : Lists x runs') : runs' = runs := by
  obtain ⟨members, entries, hdescribes, hmember, rfl⟩ := h
  obtain ⟨members', entries', hdescribes', hmember', rfl⟩ := h'
  obtain rfl := hdescribes.unique hdescribes'
  obtain rfl := Json.arr.inj (Option.some.inj (hmember.symm.trans hmember'))
  rfl

/-- A value that is delivered comes from an accepted answer. -/
lemma Request.payload_ok {r : Request} {x : Exchange} {payload : Option Json}
    (h : r.payload x = .ok payload) :
    ∃ response, x = .ok response ∧ response.Accepted ∧
      ∀ v, payload = some v → response.json? = some v := by
  unfold Request.payload at h
  split at h
  · cases h
  · cases h
  · cases h
  · rename_i response
    split at h
    · rename_i haccepted
      refine ⟨response, rfl, haccepted, fun v hv => ?_⟩
      split at h
      · cases h
        cases hv
      · split at h
        · rename_i v' hread
          cases h
          exact hv ▸ Response.json?_eq_some_iff.mpr hread
        · cases h
        · cases h
        · cases h
    · cases h

/-- Runs that are read come from an accepted list. -/
lemma Account.runsOf_ok {a : Account} {x : Exchange} {runs : List ListedRun}
    (h : a.runsOf x = .ok runs) : Lists x runs := by
  obtain ⟨payload, hpayload, hruns⟩ := Except.exists_of_bind_eq_ok h
  obtain ⟨response, hx, haccepted, hjson⟩ := Request.payload_ok hpayload
  unfold listedRuns at hruns
  split at hruns
  · rename_i entries hentries
    cases hruns
    obtain ⟨v, hv, hmember⟩ := Option.bind_eq_some_iff.mp hentries
    cases v with
    | obj members => exact ⟨members, entries, ⟨response, hx, haccepted, hjson _ hv⟩, hmember, rfl⟩
    | _ => cases hmember
  · cases hruns

/-- An empty body is no text of a value. -/
lemma Response.read_of_empty {r : Response} (h : r.body = []) : r.read = .error .malformed := by
  rw [Response.read, h]
  rfl

/-- A value that is read from an accepted answer is delivered. -/
lemma Response.Accepted.payload {response : Response} {v : Json} (status : response.Accepted)
    (hread : response.read = .ok v) (r : Request) : r.payload (.ok response) = .ok (some v) := by
  have hbody : response.body ≠ [] := by
    intro hempty
    rw [Response.read_of_empty hempty] at hread
    cases hread
  unfold Response.Accepted at status
  simp only [Request.payload, if_pos status, if_neg hbody, hread]

/-- The object of an accepted description is delivered. -/
lemma Describes.payload {x : Exchange} {members : Json.Members} (h : Describes x members)
    (r : Request) : r.payload x = .ok (some (.obj members)) := by
  obtain ⟨response, rfl, haccepted, hjson⟩ := h
  exact haccepted.payload (Response.json?_eq_some_iff.mp hjson) r

/-- The runs of an accepted list are read. -/
lemma Lists.runsOf {a : Account} {x : Exchange} {runs : List ListedRun} (h : Lists x runs) :
    a.runsOf x = .ok runs := by
  obtain ⟨members, entries, hdescribes, hmember, rfl⟩ := h
  have hentries : (some (Json.obj members)).bind (Json.get? "workflow_runs") =
      some (.arr entries) := hmember
  unfold Account.runsOf
  rw [hdescribes.payload]
  simp only [Except.bind, listedRuns, hentries]

/-- A status that is read comes from an accepted description. -/
lemma Account.statusOf_ok {a : Account} {run : RunHandle} {x : Exchange} {status : RunStatus}
    (h : a.statusOf run x = .ok status) :
    ∃ members, Describes x members ∧ status = runStatus run members := by
  obtain ⟨payload, hpayload, hstatus⟩ := Except.exists_of_bind_eq_ok h
  obtain ⟨response, hx, haccepted, hjson⟩ := Request.payload_ok hpayload
  split at hstatus
  · rename_i members
    cases hstatus
    exact ⟨members, ⟨response, hx, haccepted, hjson _ rfl⟩, rfl⟩
  · cases hstatus

/-! ### Failures -/

/-- The failure of a call to the service, with the run that it concerns. -/
def IsCallError (failure : Failure) (run : Option RunId) : Prop :=
  ∃ cause, failure = .workflow ⟨cause, run⟩ ∧ cause.kind = .call

/-- The failure of a request is the failure of a call. -/
lemma Request.isCallError (r : Request) (fault : Workflow.RequestFault) :
    IsCallError (r.failure fault) r.run :=
  ⟨_, rfl, rfl⟩

/-- An exchange that ended in an answer, or in a failure of the transport. -/
def Ordinary (x : Exchange) : Prop :=
  ∀ failure, x ≠ .error (.raw failure)

/-- An exchange that was answered with a 2xx status and a body that is nested deeper than its reader
has room for, with the failure of the reader at a list or at an object. -/
inductive Overflows : Exchange → Failure → Prop where
  | list {r : Response} (status : r.Accepted) (deep : r.read = .error .deepList) :
      Overflows (.ok r) (overflow "array")
  | object {r : Response} (status : r.Accepted) (deep : r.read = .error .deepObject) :
      Overflows (.ok r) (overflow "object")

/-- An exchange without a usable answer. -/
inductive Unusable : Exchange → Prop where
  | timedOut : Unusable (.error .timedOut)
  | transport : Unusable (.error .transport)
  | rejected {r : Response} (status : ¬ r.Accepted) : Unusable (.ok r)
  | malformed {r : Response} (body : r.body ≠ []) (unreadable : r.read = .error .malformed) :
      Unusable (.ok r)
  | overflowing {x : Exchange} {failure : Failure} (deep : Overflows x failure) : Unusable x

/-- An empty body holds no value. -/
lemma Response.json?_of_empty {r : Response} (h : r.body = []) : r.json? = none := by
  rw [Response.json?, Response.read_of_empty h]
  rfl

/-- A body that holds a value has not overflowed its reader. -/
lemma Overflows.json?_eq_none {r : Response} {failure : Failure} (h : Overflows (.ok r) failure) :
    r.json? = none := by
  cases h with
  | list _ deep | object _ deep => rw [Response.json?, deep]; rfl

/-- A reader fails in one way. -/
lemma Overflows.unique {x : Exchange} {failure other : Failure} (h : Overflows x failure)
    (h' : Overflows x other) : failure = other := by
  cases h with
  | list _ deep | object _ deep =>
    cases h' with
    | list _ deep' | object _ deep' => first | rfl | (rw [deep] at deep'; cases deep')

/-- The failure of the reader is that of the request. -/
lemma Overflows.payload {x : Exchange} {failure : Failure} (h : Overflows x failure)
    (r : Request) : r.payload x = .error failure := by
  cases h with
  | @list response status deep | @object response status deep =>
    have hbody : response.body ≠ [] := by
      intro hempty
      rw [Response.read_of_empty hempty] at deep
      cases deep
    unfold Response.Accepted at status
    simp only [Request.payload, if_pos status, if_neg hbody, deep]

/-- A request whose exchange is unusable fails, as a call or with the failure of its reader. -/
lemma Unusable.payload {x : Exchange} (h : Unusable x) (r : Request) :
    ∃ failure, r.payload x = .error failure ∧ (Overflows x failure ∨
      (∀ other, ¬ Overflows x other) ∧ ∃ fault, failure = r.failure fault) := by
  cases h with
  | timedOut | transport => exact ⟨_, rfl, .inr ⟨nofun, _, rfl⟩⟩
  | rejected status =>
    refine ⟨_, if_neg status, .inr ⟨fun other hover => ?_, _, rfl⟩⟩
    cases hover with
    | list accepted | object accepted => exact status accepted
  | @malformed response body unreadable =>
    by_cases status : response.Accepted
    · refine ⟨r.failure .malformed, ?_, .inr ⟨fun other hover => ?_, _, rfl⟩⟩
      · unfold Response.Accepted at status
        simp only [Request.payload, if_pos status, if_neg body, unreadable]
      · cases hover with
        | list _ deep | object _ deep =>
          rw [unreadable] at deep
          cases deep
    · refine ⟨_, if_neg status, .inr ⟨fun other hover => ?_, _, rfl⟩⟩
      cases hover with
      | list accepted | object accepted => exact status accepted
  | overflowing deep => exact ⟨_, deep.payload r, .inl deep⟩

/-- Every other exchange has delivered what its body holds. -/
lemma payload_of_usable {x : Exchange} (hordinary : Ordinary x) (h : ¬ Unusable x) (r : Request) :
    ∃ response, x = .ok response ∧ response.Accepted ∧ r.payload x = .ok response.json? := by
  rcases x with (_ | _ | failure) | response
  · exact absurd .timedOut h
  · exact absurd .transport h
  · exact absurd rfl (hordinary failure)
  · have status : response.Accepted :=
      Classical.byContradiction fun hstatus => h (.rejected hstatus)
    refine ⟨response, rfl, status, ?_⟩
    by_cases body : response.body = []
    · unfold Response.Accepted at status
      simp only [Request.payload, if_pos status, if_pos body, Response.json?_of_empty body]
    · cases hread : response.read with
      | ok v => rw [status.payload hread, Response.json?_eq_some_iff.mpr hread]
      | error fault =>
        cases fault with
        | malformed => exact absurd (.malformed body hread) h
        | deepList => exact absurd (.overflowing (.list status hread)) h
        | deepObject => exact absurd (.overflowing (.object status hread)) h

/-- A request that fails had an exchange that is unusable. -/
lemma Request.payload_error {r : Request} {x : Exchange} {failure : Failure}
    (h : r.payload x = .error failure) (hordinary : Ordinary x) :
    Unusable x ∧ (Overflows x failure ∨
      (∀ other, ¬ Overflows x other) ∧ ∃ fault, failure = r.failure fault) := by
  by_cases hunusable : Unusable x
  · obtain ⟨failure', hpayload, hreason⟩ := hunusable.payload r
    rw [hpayload] at h
    obtain rfl := Except.error.inj h
    exact ⟨hunusable, hreason⟩
  · obtain ⟨_, _, _, hpayload⟩ := payload_of_usable hordinary hunusable r
    rw [hpayload] at h
    cases h

/-- A request that does not fail had an exchange that is usable. -/
lemma Request.usable_of_payload {r : Request} {x : Exchange} {payload : Option Json}
    (h : r.payload x = .ok payload) : ¬ Unusable x := by
  intro hunusable
  obtain ⟨_, hpayload, _⟩ := hunusable.payload r
  rw [hpayload] at h
  cases h

/-! ### Descriptions of runs -/

/-- The description of a run that has ended. -/
def Completed (members : Json.Members) : Prop :=
  Text.strip (memberText "" "status" members) = "completed"

/-- The description of a run whose conclusion is a success. -/
def Succeeded (members : Json.Members) : Prop :=
  Text.strip (memberText "unknown" "conclusion" members) = "success"

/-- Only a run that has not ended is pending. -/
lemma not_completed_of_runStatus {run : RunHandle} {members : Json.Members}
    (h : runStatus run members = .pending) : ¬ Completed members := by
  intro hcompleted
  unfold Completed at hcompleted
  unfold runStatus at h
  rw [if_pos hcompleted] at h
  dsimp only at h
  split at h
  · cases h
  · cases h

/-- Only a run that has ended with the conclusion `success` has succeeded. -/
lemma succeeded_of_runStatus {run : RunHandle} {members : Json.Members}
    (h : runStatus run members = .succeeded) : Completed members ∧ Succeeded members := by
  unfold runStatus at h
  split at h
  · rename_i hcompleted
    dsimp only at h
    split at h
    · rename_i hsuccess
      exact ⟨hcompleted, hsuccess⟩
    · cases h
  · cases h

/-! ### Fresh runs -/

/-- A run that was not known before the dispatch and whose title mentions the slug. -/
def Fresh (known : List ListedRun) (slug : String) (run : ListedRun) : Prop :=
  run.id.value ∉ known.map (·.id.value) ∧ mentions slug run.title = true

/-- The test of a start is the test for a fresh run. -/
lemma fresh_iff {known : List ListedRun} {slug : String} {run : ListedRun} :
    (!(known.map (·.id.value)).contains run.id.value && mentions slug run.title) = true ↔
      Fresh known slug run := by
  simp [Fresh]

/-- The first fresh run of some runs. -/
def FirstFresh (known : List ListedRun) (slug : String) (runs : List ListedRun)
    (run : ListedRun) : Prop :=
  ∃ earlier later, runs = earlier ++ run :: later ∧ Fresh known slug run ∧
    ∀ other ∈ earlier, ¬ Fresh known slug other

/-- The run that is found is the first fresh one. -/
lemma firstFresh_iff {known : List ListedRun} {slug : String} {runs : List ListedRun}
    {run : ListedRun} : FirstFresh known slug runs run ↔
      Start.found? slug (known.map (·.id.value)) runs = some run := by
  unfold Start.found?
  rw [List.find?_eq_some_iff_append]
  constructor
  · rintro ⟨earlier, later, hruns, hfresh, hearlier⟩
    refine ⟨fresh_iff.mpr hfresh, earlier, later, hruns, fun other hother => ?_⟩
    rw [Bool.not_eq_true', Bool.eq_false_iff]
    exact fun htest => hearlier other hother (fresh_iff.mp htest)
  · rintro ⟨hfresh, earlier, later, hruns, hearlier⟩
    refine ⟨earlier, later, hruns, fresh_iff.mp hfresh, fun other hother hnot => ?_⟩
    have hnone := hearlier other hother
    rw [fresh_iff.mpr hnot] at hnone
    cases hnone

/-- No run is found if none is fresh. -/
lemma stale_iff {known : List ListedRun} {slug : String} {runs : List ListedRun} :
    (∀ run ∈ runs, ¬ Fresh known slug run) ↔
      Start.found? slug (known.map (·.id.value)) runs = none := by
  unfold Start.found?
  rw [List.find?_eq_none]
  exact forall₂_congr fun _ _ => not_congr fresh_iff.symm

/-- A run that is found is listed, it is not known, and its title mentions the slug. -/
lemma mem_of_found? {known : List Int} {slug : String} {runs : List ListedRun} {run : ListedRun}
    (h : Start.found? slug known runs = some run) :
    run ∈ runs ∧ run.id.value ∉ known ∧ mentions slug run.title = true := by
  have htest := List.find?_some h
  rw [Bool.and_eq_true, Bool.not_eq_true', List.contains_eq_mem, decide_eq_false_iff_not] at htest
  exact ⟨List.mem_of_find?_eq_some h, htest.1, htest.2⟩

/-! ### Answers for examples -/

/-- An answer that holds a value, with room for nine hundred lists in one another. -/
def answered (v : Json) : Exchange :=
  .ok ⟨200, Text.encode v.compact, 900⟩

/-- An answer without a body. -/
def noContent : Exchange :=
  .ok ⟨204, [], 900⟩

/-! ### Bodies for which the stack is too small -/

/-- Brackets are encoded by one byte each. -/
lemma decode_brackets (n : Nat) :
    Text.decode (List.replicate n 91) = some (List.replicate n '[') := by
  have hbracket : ∀ rest, Text.decodeUtf8 (91 :: rest) = (Text.decodeUtf8 rest).map ('[' :: ·) := by
    intro rest
    conv => lhs; unfold Text.decodeUtf8
    rfl
  have hutf8 : ∀ n, Text.decodeUtf8 (List.replicate n 91) = some (List.replicate n '[') := by
    intro n
    induction n with
    | zero => rfl
    | succ n ih =>
      rw [List.replicate_succ, List.replicate_succ, hbracket, ih]
      rfl
  have hdetect : Text.detect (List.replicate n 91) = (.utf8, List.replicate n 91) := by
    match n with
    | 0 | 1 | 2 | 3 | _ + 4 => rfl
  unfold Text.decode
  rw [hdetect]
  exact hutf8 n

/-- However large the stack of the reader is, there are accepted answers that use it up. -/
theorem overflows_brackets (room more : Nat) :
    Overflows (.ok ⟨200, List.replicate (room + 1 + more) 91, room⟩) (overflow "array") := by
  refine .list ⟨Nat.le_refl 200, Nat.le_add_right 201 99⟩ ?_
  rw [Response.read, decode_brackets]
  exact Json.readChars_replicate_bracket (bodyDialect room) more

/-- An answer of a hundred thousand brackets, while the stack has room for nine hundred lists. -/
def deepAnswer : Exchange :=
  .ok ⟨200, List.replicate 100000 91, 900⟩

/-- The deep answer overflows. -/
lemma overflows_deepAnswer : Overflows deepAnswer (overflow "array") :=
  overflows_brackets 900 99099

end Teardown.Github
