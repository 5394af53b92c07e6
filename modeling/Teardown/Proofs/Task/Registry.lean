import Mathlib.Data.List.Sort
import Mathlib.Data.String.Basic
import Mathlib.Tactic.Lemma
import Teardown.StopJob

/-!
# The calls that register handlers

A `Registration` is a call that registers a handler: the tag of the task type, the model that reads
payloads, and the factory that makes jobs of what was read.  Each call has a model of its own, and
its factory takes what this model reads.

A registry `Holds` a list of calls if its handlers are those of the calls, in their order and under
different names.  The step is one more call: it is refused and leaves the registry as it is
(`Holds.enter_refused`), or the registry holds it too (`Holds.enter_accepted`).  So after any calls
the registry holds those that were accepted (`Holds.after`).  What is looked up in it is the handler
of the one call with this name, and since names are stripped and the looked up type is not, a type
with blank characters around it is not found.

`registry_writeOnce` states this for a registry that begins without handlers.  The registry of the
worker is one of these (`after_stopping`).
-/

namespace Teardown

variable {m : Type → Type}

/-- A call that registers a handler. -/
structure Registration (m : Type → Type) where
  tag : String
  /-- What the model makes of a payload. -/
  Payload : Type
  read : Json.Members → Except Report Payload
  fields : Payload → Json.Members
  factory : Payload → Except Failure (Job m)

namespace Registration

/-- The task type that is registered. -/
def name (c : Registration m) : String := Text.strip c.tag

/-- The handler that is registered. -/
def handler (c : Registration m) : Handler m := fun payload =>
  (c.read payload).map fun p => { fields := c.fields p, build := c.factory p }

/-- Makes the call.  A registry that refuses it stays as it is. -/
def enter (c : Registration m) (r : Registry m) : Except Failure Unit × Registry m :=
  match r.register c.tag c.handler with
  | .ok r' => (.ok (), r')
  | .error reason => (.error (.refused reason), r)

/-- The checks of a call, in their order. -/
lemma enter_eq (c : Registration m) (r : Registry m) : c.enter r =
    if c.name = "" then (.error (.refused (.blank "task_type")), r)
    else if (r.lookup c.name).isSome then (.error (.refused (.alreadyRegistered c.name)), r)
    else (.ok (), { handlers := r.handlers ++ [(c.name, c.handler)] }) := by
  unfold enter Registry.register name
  by_cases hblank : Text.strip c.tag = ""
  · simp only [if_pos hblank]
  · by_cases hfound : (r.lookup (Text.strip c.tag)).isSome = true
    · simp only [if_neg hblank, if_pos hfound]
    · simp only [if_neg hblank, if_neg hfound]

/-- A call that is refused leaves the registry as it is. -/
lemma enter_of_error {c : Registration m} {r : Registry m} {failure : Failure}
    (h : (c.enter r).1 = .error failure) :
    failure.kind = "ValueError" ∧ c.enter r = (.error failure, r) := by
  unfold enter at h ⊢
  cases hregister : r.register c.tag c.handler with
  | ok r' =>
    rw [hregister] at h
    cases h
  | error reason =>
    rw [hregister] at h
    cases h
    exact ⟨rfl, rfl⟩

/-- The fields that the model finds in the payload of a task. -/
def validate (c : Registration m) (e : Envelope) : Except Task.Error Json.Members :=
  match c.read e.payload with
  | .ok p => .ok (c.fields p)
  | .error report => .error (.invalidPayload e.taskType report)

/-- The job that the factory makes of what the model reads. -/
def build (c : Registration m) (e : Envelope) : Except Failure (Job m) :=
  match c.read e.payload with
  | .ok p => c.factory p
  | .error report => .error (.task (.invalidPayload e.taskType report))

end Registration

namespace Registry

/-- The registry after some calls. -/
def after (r : Registry m) (calls : List (Registration m)) : Registry m :=
  calls.foldl (fun r c => (c.enter r).2) r

/-- The calls that are accepted. -/
def accepted : Registry m → List (Registration m) → List (Registration m)
  | _, [] => []
  | r, c :: calls =>
    match c.enter r with
    | (.ok _, r') => c :: r'.accepted calls
    | (.error _, r') => r'.accepted calls

/-- The handlers are those of the calls, under different names. -/
structure Holds (r : Registry m) (held : List (Registration m)) : Prop where
  handlers : r.handlers = held.map fun c => (c.name, c.handler)
  nodup : (held.map Registration.name).Nodup

namespace Holds

variable {r : Registry m} {held : List (Registration m)} {c : Registration m} {taskType : String}

/-- Without handlers there are no calls. -/
lemma empty : ({} : Registry m).Holds [] where
  handlers := rfl
  nodup := .nil

/-! ### Looking up -/

/-- The handler of a call is found under its name. -/
lemma lookup_name (h : r.Holds held) (hc : c ∈ held) : r.lookup c.name = some c.handler := by
  obtain ⟨before, behind, rfl⟩ := List.append_of_mem hc
  unfold lookup
  rw [h.handlers, List.lookup_eq_some_iff]
  refine ⟨_, _, by rw [List.map_append, List.map_cons], fun entry hentry => ?_⟩
  obtain ⟨a, ha, rfl⟩ := List.mem_map.mp hentry
  -- No entry before the one of `c` answers to its name.
  have hnodup := h.nodup
  rw [List.map_append, List.map_cons, List.nodup_append] at hnodup
  have hne := hnodup.2.2 a.name (List.mem_map_of_mem ha) c.name List.mem_cons_self
  exact bne_iff_ne.mpr hne.symm

/-- Nothing is found under any other name. -/
lemma lookup_eq_none (h : r.Holds held) (hnew : taskType ∉ held.map Registration.name) :
    r.lookup taskType = none := by
  unfold lookup
  rw [h.handlers, List.lookup_eq_none_iff]
  intro entry hentry
  obtain ⟨a, ha, rfl⟩ := List.mem_map.mp hentry
  have hne : taskType ≠ a.name := fun heq => hnew (heq ▸ List.mem_map_of_mem ha)
  exact bne_iff_ne.mpr hne

/-! ### One call -/

/-- A call without a name, or with the name of one that was accepted, is refused. -/
lemma enter_refused (h : r.Holds held) (hc : c.name = "" ∨ c.name ∈ held.map Registration.name) :
    ∃ reason, c.enter r = (.error (.refused reason), r) := by
  rw [Registration.enter_eq]
  by_cases hblank : c.name = ""
  · rw [if_pos hblank]
    exact ⟨_, rfl⟩
  · obtain ⟨a, ha, hname⟩ := List.mem_map.mp (hc.resolve_left hblank)
    have hfound : (r.lookup c.name).isSome = true :=
      Option.isSome_of_eq_some (hname ▸ h.lookup_name ha)
    rw [if_neg hblank, if_pos hfound]
    exact ⟨_, rfl⟩

/-- Any other call is accepted, and the registry holds it too. -/
lemma enter_accepted (h : r.Holds held) (hblank : c.name ≠ "")
    (hnew : c.name ∉ held.map Registration.name) :
    ∃ r', c.enter r = (.ok (), r') ∧ r'.Holds (held ++ [c]) := by
  refine ⟨{ handlers := r.handlers ++ [(c.name, c.handler)] }, ?_, ?_, ?_⟩
  · rw [Registration.enter_eq, if_neg hblank, h.lookup_eq_none hnew]
    rfl
  · rw [h.handlers, List.map_append]
    rfl
  · rw [List.map_append, List.nodup_append]
    refine ⟨h.nodup, List.nodup_singleton _, fun name hname other hother => ?_⟩
    rw [List.map_singleton, List.mem_singleton] at hother
    rintro rfl
    exact hnew (hother ▸ hname)

/-- Which calls are refused. -/
lemma enter_error_iff (h : r.Holds held) : (∃ failure, (c.enter r).1 = .error failure) ↔
    c.name = "" ∨ c.name ∈ held.map Registration.name := by
  constructor
  · rintro ⟨failure, hfailed⟩
    by_contra hc
    obtain ⟨hblank, hnew⟩ := not_or.mp hc
    obtain ⟨r', henter, _⟩ := h.enter_accepted hblank hnew
    rw [henter] at hfailed
    cases hfailed
  · intro hc
    obtain ⟨reason, henter⟩ := h.enter_refused hc
    exact ⟨_, congrArg Prod.fst henter⟩

/-! ### All calls -/

/-- The registry holds the calls that it accepts. -/
lemma after (h : r.Holds held) (calls : List (Registration m)) :
    (r.after calls).Holds (held ++ r.accepted calls) := by
  -- A call changes what is held, so the induction is for every registry that holds some calls.
  induction calls generalizing r held with
  | nil => exact (List.append_nil held).symm ▸ h
  | cons c calls ih =>
    unfold Registry.after accepted
    rw [List.foldl_cons]
    by_cases hc : c.name = "" ∨ c.name ∈ held.map Registration.name
    · obtain ⟨reason, henter⟩ := h.enter_refused hc
      rw [henter]
      exact ih h
    · obtain ⟨hblank, hnew⟩ := not_or.mp hc
      obtain ⟨r', henter, h'⟩ := h.enter_accepted hblank hnew
      rw [henter]
      dsimp only
      rw [List.append_cons]
      exact ih h'

/-! ### The task types -/

/-- The task types are the names of the calls. -/
lemma taskTypes_perm (h : r.Holds held) : r.taskTypes.Perm (held.map Registration.name) := by
  have hnames : r.handlers.map Prod.fst = held.map Registration.name := by
    rw [h.handlers, List.map_map]
    rfl
  unfold taskTypes
  rw [hnames]
  exact List.mergeSort_perm _ _

/-- The task types are listed in ascending order, each once. -/
lemma taskTypes_ascending (h : r.Holds held) : r.taskTypes.Pairwise (· < ·) := by
  have hsorted : r.taskTypes.Pairwise (· ≤ ·) := List.pairwise_mergeSort' _ _
  have hdistinct : r.taskTypes.Pairwise (· ≠ ·) := h.taskTypes_perm.nodup_iff.mpr h.nodup
  exact (hsorted.and hdistinct).imp fun hlt => lt_of_le_of_ne hlt.1 hlt.2

/-- What is done with a task whose type was registered. -/
lemma dispatch (h : r.Holds held) {e : Envelope} (hc : c ∈ held) (htype : c.name = e.taskType) :
    r.validate e = c.validate e ∧ r.build e = c.build e := by
  have hlookup : r.lookup e.taskType = some c.handler := htype ▸ h.lookup_name hc
  unfold Registry.validate Registry.build prepare Registration.validate Registration.build
  rw [hlookup]
  dsimp only [Registration.handler]
  cases c.read e.payload with
  | ok p => exact ⟨rfl, rfl⟩
  | error report => exact ⟨rfl, rfl⟩

/-- What is done with any other task. -/
lemma dispatch_unknown (h : r.Holds held) {e : Envelope} (hnew : e.taskType ∉ r.taskTypes) :
    r.validate e = .error (.unknownType e.taskType) ∧
      r.build e = .error (.task (.unknownType e.taskType)) := by
  rw [h.taskTypes_perm.mem_iff] at hnew
  unfold Registry.validate Registry.build prepare
  rw [h.lookup_eq_none hnew]
  exact ⟨rfl, rfl⟩

/-- A task type is that of exactly one call. -/
lemma exists_unique_call (h : r.Holds held) (htype : taskType ∈ r.taskTypes) :
    ∃ c ∈ held, c.name = taskType ∧ ∀ a ∈ held, a.name = taskType → a = c := by
  obtain ⟨c, hc, hname⟩ := List.mem_map.mp (h.taskTypes_perm.mem_iff.mp htype)
  exact ⟨c, hc, hname, fun a ha hsame =>
    List.inj_on_of_nodup_map h.nodup ha hc (hsame.trans hname.symm)⟩

/-- A validation fails for an unknown type only. -/
lemma validate_unknown_iff (h : r.Holds held) (e : Envelope) :
    (∃ cause, r.validate e = .error cause ∧ cause.kind = "UnknownJobTaskError") ↔
      e.taskType ∉ r.taskTypes := by
  constructor
  · rintro ⟨cause, hfailed, hkind⟩ htype
    obtain ⟨c, hc, hname, _⟩ := h.exists_unique_call htype
    rw [(h.dispatch hc hname).1] at hfailed
    unfold Registration.validate at hfailed
    split at hfailed
    · cases hfailed
    · cases hfailed
      simp [Task.Error.kind] at hkind
  · intro hnew
    exact ⟨_, (h.dispatch_unknown hnew).1, rfl⟩

/-- A job is not built for an unknown type, or because the factory fails in the same way. -/
lemma build_unknown_iff (h : r.Holds held) (e : Envelope) :
    (∃ failure, r.build e = .error failure ∧ failure.kind = "UnknownJobTaskError") ↔
      e.taskType ∉ r.taskTypes ∨ ∃ c ∈ held, c.name = e.taskType ∧
        ∃ p failure, c.read e.payload = .ok p ∧ c.factory p = .error failure ∧
          failure.kind = "UnknownJobTaskError" := by
  constructor
  · rintro ⟨failure, hfailed, hkind⟩
    by_cases htype : e.taskType ∈ r.taskTypes
    · obtain ⟨c, hc, hname, _⟩ := h.exists_unique_call htype
      rw [(h.dispatch hc hname).2] at hfailed
      unfold Registration.build at hfailed
      split at hfailed
      · rename_i p hread
        exact .inr ⟨c, hc, hname, p, failure, hread, hfailed, hkind⟩
      · cases hfailed
        simp [Failure.kind, Task.Error.kind] at hkind
    · exact .inl htype
  · rintro (hnew | ⟨c, hc, hname, p, failure, hread, hfailed, hkind⟩)
    · exact ⟨_, (h.dispatch_unknown hnew).2, rfl⟩
    · refine ⟨failure, ?_, hkind⟩
      rw [(h.dispatch hc hname).2]
      unfold Registration.build
      rw [hread]
      exact hfailed

end Holds

section Concat

variable (r : Registry m) (calls : List (Registration m)) (c : Registration m)

/-- One more call is made to the registry after the calls before it. -/
lemma after_concat : r.after (calls ++ [c]) = (c.enter (r.after calls)).2 := by
  unfold Registry.after
  rw [List.foldl_append, List.foldl_cons, List.foldl_nil]

/-- One call is accepted or not. -/
lemma accepted_singleton : r.accepted [c] =
    match (c.enter r).1 with
    | .ok _ => [c]
    | .error _ => [] := by
  unfold accepted
  rcases c.enter r with ⟨result, r'⟩
  cases result with
  | ok _ => rfl
  | error _ => rfl

/-- The calls that are accepted are the first one, if it is, and those accepted after it. -/
lemma accepted_cons : r.accepted (c :: calls) = r.accepted [c] ++ (c.enter r).2.accepted calls := by
  rw [accepted_singleton, accepted]
  rcases c.enter r with ⟨result, r'⟩
  cases result with
  | ok _ => rfl
  | error _ => rfl

/-- Whether one more call is accepted is decided by the registry after the calls before it. -/
lemma accepted_concat :
    r.accepted (calls ++ [c]) = r.accepted calls ++ (r.after calls).accepted [c] := by
  induction calls generalizing r with
  | nil => rw [List.nil_append, accepted, List.nil_append, after, List.foldl_nil]
  | cons a calls ih =>
    rw [List.cons_append, accepted_cons, ih, accepted_cons r calls, List.append_assoc]
    rfl

end Concat

/-! ### The registry of the worker -/

section Worker

variable [Monad m] (surroundings : StopJob.Surroundings m Seconds)

/-- The registration of stopping tasks. -/
def stopping : Registration m where
  tag := StopJob.name
  Payload := StopRequest
  read := StopRequest.ofMembers
  fields := StopRequest.fields
  factory request := (StopJob.build surroundings (.ofRequest request)).mapError Failure.refused

/-- The registry of the worker is what this one call leaves. -/
lemma after_stopping : ({} : Registry m).after [stopping surroundings] =
    { handlers := [(StopJob.name, StopJob.handler surroundings)] } := by
  have hstripped : Text.strip StopJob.name = StopJob.name := by decide
  have hname : (stopping surroundings).name = StopJob.name := hstripped
  have hblank : StopJob.name ≠ "" := by decide
  have hlookup : ({} : Registry m).lookup StopJob.name = none := rfl
  unfold after
  rw [List.foldl_cons, List.foldl_nil, Registration.enter_eq, hname, if_neg hblank, hlookup]
  rfl

end Worker

/-! ### The theorem -/

/-- After any calls on a registry without handlers, a further call is refused exactly if its name is
empty or is that of an accepted call, and then nothing changes.  The task types are the names of the
accepted calls in strictly ascending order.  Validating a task and building its job fail for an
unknown type exactly if its type, as it stands, is not among them.  Otherwise both use the one
accepted call of this type.  Its factory is arbitrary: it may end the building with a failure of
the same kind, and this is the only other way to see one. -/
theorem registry_writeOnce (calls : List (Registration m)) :
    let fresh : Registry m := {}
    let r := fresh.after calls
    let held := fresh.accepted calls
    (∀ c : Registration m,
      ((∃ failure, (c.enter r).1 = .error failure) ↔
        c.name = "" ∨ ∃ a ∈ held, a.name = c.name) ∧
      (∀ failure, (c.enter r).1 = .error failure → failure.kind = "ValueError" ∧
        fresh.after (calls ++ [c]) = r ∧ fresh.accepted (calls ++ [c]) = held) ∧
      ((c.enter r).1 = .ok () → fresh.accepted (calls ++ [c]) = held ++ [c])) ∧
    (r.taskTypes.Pairwise (· < ·) ∧ r.taskTypes.Perm (held.map Registration.name)) ∧
    ∀ e : Envelope,
      ((∃ cause, r.validate e = .error cause ∧ cause.kind = "UnknownJobTaskError") ↔
        e.taskType ∉ r.taskTypes) ∧
      ((∃ failure, r.build e = .error failure ∧ failure.kind = "UnknownJobTaskError") ↔
        e.taskType ∉ r.taskTypes ∨ ∃ c ∈ held, c.name = e.taskType ∧
          ∃ p failure, c.read e.payload = .ok p ∧ c.factory p = .error failure ∧
            failure.kind = "UnknownJobTaskError") ∧
      (e.taskType ∈ r.taskTypes → ∃ c ∈ held, c.name = e.taskType ∧
        (∀ a ∈ held, a.name = e.taskType → a = c) ∧
        r.validate e = c.validate e ∧ r.build e = c.build e) := by
  intro fresh r held
  have hholds : r.Holds held := Holds.empty.after calls
  refine ⟨fun c => ⟨?_, fun failure hfailed => ?_, fun hentered => ?_⟩,
    ⟨hholds.taskTypes_ascending, hholds.taskTypes_perm⟩, fun e =>
      ⟨hholds.validate_unknown_iff e, hholds.build_unknown_iff e, fun htype => ?_⟩⟩
  · rw [hholds.enter_error_iff, List.mem_map]
  · obtain ⟨hkind, henter⟩ := Registration.enter_of_error hfailed
    refine ⟨hkind, ?_, ?_⟩
    · rw [after_concat]
      exact congrArg Prod.snd henter
    · rw [accepted_concat, accepted_singleton, hfailed]
      exact List.append_nil held
  · rw [accepted_concat, accepted_singleton, hentered]
  · obtain ⟨c, hc, hname, hunique⟩ := hholds.exists_unique_call htype
    exact ⟨c, hc, hname, hunique, hholds.dispatch hc hname⟩

/-- A registration of jobs that end with a fixed status. -/
def saying (tag status : String) : Registration Id where
  tag := tag
  Payload := Json.Members
  read := .ok
  fields := id
  factory _ := .ok fun jobName => .returned ⟨jobName, status, []⟩

/-- Four calls, two of them with tags that differ in blank characters only, and one without a name. -/
def fourCalls : List (Registration Id) :=
  [saying " echo " "first", saying "echo" "second", saying "  " "third", saying "draw\n" "fourth"]

/-- The first and the last of them are accepted.  The first one keeps its name against any further
call, and its jobs are those that are built. -/
theorem fourCalls_writeOnce :
    let fresh : Registry Id := {}
    let r := fresh.after fourCalls
    fresh.accepted fourCalls = [saying " echo " "first", saying "draw\n" "fourth"] ∧
    r.taskTypes = ["draw", "echo"] ∧
    (∃ failure, ((saying "\techo" "fifth").enter r).1 = .error failure ∧
      failure.kind = "ValueError") ∧
    (∃ cause, r.validate ⟨" echo ", []⟩ = .error cause ∧ cause.kind = "UnknownJobTaskError") ∧
    ∃ job, r.build ⟨"echo", []⟩ = .ok job ∧ job "echo" = .returned ⟨"echo", "first", []⟩ := by
  intro fresh r
  have haccepted : fresh.accepted fourCalls =
      [saying " echo " "first", saying "draw\n" "fourth"] := rfl
  obtain ⟨hcalls, ⟨hascending, hnames⟩, htasks⟩ := registry_writeOnce fourCalls
  rw [haccepted] at hcalls hnames htasks
  have htypes : r.taskTypes = ["draw", "echo"] := by
    refine List.Perm.eq_of_pairwise (fun a b _ _ hab hba => absurd hba hab.not_gt) hascending
      (by decide) (hnames.trans ?_)
    exact List.Perm.swap _ _ _
  refine ⟨haccepted, htypes, ?_, ?_, ?_⟩
  · obtain ⟨hrefused, hkind, _⟩ := hcalls (saying "\techo" "fifth")
    obtain ⟨failure, hfailed⟩ := hrefused.mpr (.inr ⟨_, List.mem_cons_self, rfl⟩)
    exact ⟨failure, hfailed, (hkind failure hfailed).1⟩
  · refine (htasks ⟨" echo ", []⟩).1.mpr ?_
    rw [htypes]
    decide
  · have hknown : "echo" ∈ r.taskTypes := by
      rw [htypes]
      decide
    obtain ⟨c, _, _, hunique, _, hbuild⟩ := (htasks ⟨"echo", []⟩).2.2 hknown
    have hfirst : saying " echo " "first" = c := hunique _ List.mem_cons_self rfl
    rw [← hfirst] at hbuild
    exact ⟨_, hbuild, rfl⟩

end Registry

end Teardown
