import Mathlib.Tactic.Lemma
import Teardown.CommandLine
import Teardown.Proofs.Task.Submission

/-!
# Stopping tasks from submission to execution

What a runner does with a stopping task is decided by its payload.  A payload that is valid is
admitted, and the text that goes into the queue comes to the job of the same request, unless a span
is an infinite float, which the text cannot hold, or the id is too long to be read again: then there
is no job.  A payload that is invalid is refused, and nothing else happens.

The programs are described by equations, in any monad, so that they can be put in the place of the
runner by those who submit: the command line and the program interface.
-/

namespace Teardown

/-- The text of a task is not blank. -/
lemma Envelope.check_text (e : Envelope) : Queue.check e.text = .ok () := by
  have hbrace : ∃ rest, e.text.toList = '\x7b' :: rest := ⟨_, String.toList_ofList⟩
  obtain ⟨rest, htext⟩ := hbrace
  have hink : Text.isAllBlank e.text = false := by
    unfold Text.isAllBlank
    rw [htext, List.all_cons]
    rfl
  unfold Queue.check
  rw [hink]
  rfl

/-- The payload of a stop has each key once. -/
lemma StopRequest.nodup_task (id : Json) (timeout interval : Option Json) :
    ((task id timeout interval).payload.map Prod.fst).Nodup := by
  cases timeout <;> cases interval <;> simp [task, deploymentKey, timeoutKey, intervalKey]

namespace Runner

variable {m : Type → Type} [Monad m] [MonadStateOf Queue m]

/-- Puts a task into the queue, whether it is valid or not, and says so in the log. -/
def lodge (r : Runner m) (e : Envelope) : m String := do
  let id ← r.newId
  modifyThe Queue (Queue.push id e.text)
  r.write (entry .info ("submitted task " ++ id ++ " (" ++ e.taskType ++ ")"))
  return id

/-- A runner takes a task, and the text that it puts into the queue for it comes to a job, under the
type that is read from the text. -/
structure Takes (r : Runner m) (e : Envelope) (taskType : Option String) (job : m JobEnd) : Prop where
  submitted : r.submit e = Except.ok <$> r.lodge e
  executed : r.execute e.text = do
    let ending ← job
    return ⟨taskType, ending⟩

/-- A runner accepts a task, and the text that it puts into the queue for it comes to a job. -/
def Accepts (r : Runner m) (e : Envelope) (job : m JobEnd) : Prop :=
  r.Takes e (some e.taskType) job

/-- How a task ends whose text is not decoded. -/
def undecoded : JobEnd :=
  .raised (.task (.invalidDescriptor (.whole Envelope.model .malformed)))

/-- A runner accepts a task, but the text that it puts into the queue for it is not decoded. -/
def Strands (r : Runner m) (e : Envelope) : Prop :=
  r.Takes e none (pure undecoded)

/-- A runner refuses a task with a report on its payload, and does nothing else. -/
def Refuses (r : Runner m) (e : Envelope) (report : Report) : Prop :=
  r.submit e = return .error (.task (.invalidPayload e.taskType report))

variable {r : Runner m} {surroundings : StopJob.Surroundings m Seconds} {e : Envelope}

/-- A task that is valid is admitted. -/
lemma submit_of_validate [LawfulMonad m] {fields : Json.Members}
    (h : r.registry.validate e = .ok fields) : r.submit e = Except.ok <$> r.lodge e := by
  unfold submit enqueue lodge
  rw [h, e.check_text]
  simp only [bind_assoc, pure_bind, map_bind, map_pure]

variable (hregistered : r.registry.lookup StopJob.name = some (StopJob.handler surroundings))
  (htype : e.taskType = StopJob.name)
include hregistered htype

/-- A stopping task with a valid payload is admitted. -/
lemma submit_of_valid [LawfulMonad m] {request : StopRequest}
    (h : StopRequest.ofMembers e.payload = .ok request) :
    r.submit e = Except.ok <$> r.lodge e := by
  have hvalid : r.registry.validate e = .ok request.fields := by
    unfold Registry.validate
    rw [prepare_eq hregistered htype, h]
    rfl
  exact submit_of_validate hvalid

/-- A stopping task with an invalid payload is refused. -/
lemma refuses_of_invalid {report : Report}
    (h : StopRequest.ofMembers e.payload = .error report) : r.Refuses e report := by
  unfold Refuses submit Registry.validate
  rw [prepare_eq hregistered htype, h, htype]
  rfl

/-- The text of a stopping task with a valid payload comes to the job of the request, if the id is not
too long and no span is an infinite float. -/
lemma accepts_of_valid [LawfulMonad m] {request : StopRequest}
    (hkeys : (e.payload.map Prod.fst).Nodup)
    (h : StopRequest.ofMembers e.payload = .ok request)
    (hshort : ¬ StopRequest.Overlong e.payload)
    (hfinite : ∀ key, (key, .float (1.0 / 0.0)) ∉ e.payload) :
    r.Accepts e (StopJob.execute surroundings (.ofRequest request) StopJob.name) := by
  refine ⟨submit_of_valid hregistered htype h, ?_⟩
  have hagain := StopRequest.ofMembers_recorded h hkeys hfinite
  have hbuilt := @build_of_valid _ _ _ _
    ⟨StopJob.name, Json.recordedMembers e.payload⟩ hregistered rfl _ hagain
  unfold execute
  rw [Envelope.ofText_of_valid htype hkeys h hshort]
  dsimp only
  rw [hbuilt, htype]

/-- The text of a stopping task with a valid payload comes to no job if the id is not too long and a
span is an infinite float. -/
lemma accepts_of_infinite [LawfulMonad m] {request : StopRequest}
    (hkeys : (e.payload.map Prod.fst).Nodup)
    (h : StopRequest.ofMembers e.payload = .ok request)
    (hshort : ¬ StopRequest.Overlong e.payload) {key : String}
    (hinfinite : (key, .float (1.0 / 0.0)) ∈ e.payload) : ∃ report,
    r.Accepts e (pure (.raised (.task (.invalidPayload StopJob.name report)))) := by
  obtain ⟨issues, hagain, _⟩ := StopRequest.ofMembers_infinite h hkeys hinfinite
  refine ⟨⟨StopRequest.model, issues⟩, submit_of_valid hregistered htype h, ?_⟩
  have hbuilt := @build_of_invalid _ _ _ _
    ⟨StopJob.name, Json.recordedMembers e.payload⟩ hregistered rfl _ hagain
  unfold execute
  rw [Envelope.ofText_of_valid htype hkeys h hshort]
  dsimp only
  rw [hbuilt, pure_bind, htype]

/-- The text of a stopping task with a valid payload is not decoded if the id is too long. -/
lemma strands_of_overlong [LawfulMonad m] {request : StopRequest}
    (hkeys : (e.payload.map Prod.fst).Nodup)
    (h : StopRequest.ofMembers e.payload = .ok request)
    (hlong : StopRequest.Overlong e.payload) : r.Strands e := by
  refine ⟨submit_of_valid hregistered htype h, ?_⟩
  unfold execute
  rw [Envelope.ofText_of_overlong hkeys h hlong, pure_bind]
  rfl

end Runner

/-! ### Those who submit -/

section Submitting

variable {m : Type → Type} [Monad m] [MonadStateOf Queue m]

/-- What a command comes to after draining the queue. -/
def CommandLine.conclude (host : Host m) (order : Order) : Runner.Drain → m Exit
  | .drained outcomes => report host order 0 outcomes
  | .broken failure => return .raised failure
  | .unfinished => return .unfinished

variable [LawfulMonad m]

/-- A command whose task is refused closes the connection and ends with the failure. -/
lemma CommandLine.stop_of_refuses {w : Worker m} {order : Order} {report : Report}
    (h : w.runner.Refuses order.task report) : stop w order = do
      w.host.close
      return .raised (.task (.invalidPayload order.task.taskType report)) := by
  have hsubmit : w.runner.submit order.task = _ := h
  unfold stop
  rw [hsubmit, pure_bind]

/-- A command whose task is taken runs the queue, closes the connection and reports. -/
lemma CommandLine.stop_of_takes {w : Worker m} {order : Order} {taskType : Option String}
    {job : m JobEnd} (h : w.runner.Takes order.task taskType job) : stop w order = (do
      let _ ← w.runner.lodge order.task
      let drain ← w.runner.drain w.host.horizon
      w.host.close
      conclude w.host order drain) := by
  unfold stop
  rw [h.submitted, bind_map_left]
  rfl

/-- A request whose task is refused is answered with the report. -/
lemma Api.Service.stop_of_refuses {s : Api.Service m} {id query : String} {input : StopInput}
    (hinput : StopInput.read id query = .ok input) {report : Report}
    (h : s.runner.Refuses input.task report) : s.stop id query =
      pure { reply :=
        .refusal 400 (Task.Error.invalidPayload input.task.taskType report).message } := by
  have hsubmit : s.runner.submit input.task = _ := h
  unfold Api.Service.stop
  rw [hinput]
  dsimp only
  rw [hsubmit, pure_bind]
  rfl

end Submitting

end Teardown
