import Mathlib.Tactic.Lemma
import Teardown.Proofs.Github.Exchange
import Teardown.Proofs.Procedure
import Teardown.Proofs.StopJob.Answers

/-!
# What a start and a poll send

`StartTranscript` is what a start has sent when it has located its run: a list of runs, the
snapshot; one dispatch; lists without a fresh run; and a list in which the run is the first fresh
one.
`PollTranscript` is the one message of a poll.

`Start.Course` says what a start has sent in each of its phases; every answered question extends it.
From it follows that the client of an account keeps to the `service` of the account, over any
transport that does nothing but send.
-/

namespace Teardown.Github

/-! ### Transcripts -/

section Transcripts

variable (a : Account)

/-- A message that lists runs. -/
def Message.AsksRuns (m : Message) : Prop :=
  m.Asks a "GET" (a.workflowPath ++ "/runs")
    [("event", "workflow_dispatch"), ("branch", a.ref), ("per_page", "30")] none

/-- A message that dispatches a run for the instance with a slug. -/
def Message.AsksDispatch (m : Message) (slug : String) : Prop :=
  m.Asks a "POST" (a.workflowPath ++ "/dispatches") []
    (some (.obj [("ref", .str a.ref), ("inputs", .obj [("instance_slug", .str slug)])]))

/-- A message that asks for the state of a run. -/
def Message.AsksState (m : Message) (id : RunId) : Prop :=
  m.Asks a "GET" (a.repositoryPath ++ "/actions/runs/" ++ id.display) [] none

/-- What a start has sent when it has located its run.  The lists after the dispatch are at most as
many as attempts are allowed, and only the last of them holds a fresh run. -/
inductive StartTranscript (slug : String) : RunHandle → List Sent → Prop where
  | intro {listing dispatch : Message} {x y z : Exchange} {misses : List Exchange}
      {known earlier later : List ListedRun} {run : ListedRun}
      (listing_asks : listing.AsksRuns a) (dispatch_asks : dispatch.AsksDispatch a slug)
      (snapshot : Lists x known) (accepted : Accepted y)
      (missed : ∀ miss ∈ misses, ∃ runs, Lists miss runs ∧ ∀ r ∈ runs, ¬ Fresh known slug r)
      (attempts : misses.length + 1 ≤ a.lookupAttempts)
      (hit : Lists z (earlier ++ run :: later)) (fresh : Fresh known slug run)
      (first : ∀ r ∈ earlier, ¬ Fresh known slug r) :
      StartTranscript slug ⟨run.id, run.url⟩
        ((listing, x) :: (dispatch, y) :: (misses.map (Prod.mk listing) ++ [(listing, z)]))

/-- What a poll has sent when it knows the state of its run. -/
inductive PollTranscript (run : RunHandle) : RunStatus → List Sent → Prop where
  | intro {message : Message} {x : Exchange} {members : Json.Members} {status : RunStatus}
      (asks : message.AsksState a run.id) (describes : Describes x members)
      (told : status = runStatus run members) : PollTranscript run status [(message, x)]

/-- The service of an account: what is sent for a start or a poll that succeeds. -/
def Account.service : Service where
  starts inst result sent :=
    ∀ run, result = .ok run → StartTranscript a (Text.strip inst.slug) run sent
  polls run result sent :=
    ∀ status, result = .ok status → PollTranscript a run status sent

end Transcripts

/-! ### The course of a start -/

namespace Start

section Course

variable (a : Account) (slug : String)

/-- What a start has sent while it looks for its run. -/
inductive Sought : List ListedRun → List Exchange → List Sent → Prop where
  | intro {listing dispatch : Message} {x y : Exchange} {misses : List Exchange}
      {known : List ListedRun} (listing_sent : a.message a.listing = .ok listing)
      (dispatch_sent : a.message (a.dispatch slug) = .ok dispatch)
      (snapshot : Lists x known) (accepted : Accepted y)
      (missed : ∀ miss ∈ misses, ∃ runs, Lists miss runs ∧ ∀ r ∈ runs, ¬ Fresh known slug r) :
      Sought known misses ((listing, x) :: (dispatch, y) :: misses.map (Prod.mk listing))

/-- What a start has sent when it is in a phase. -/
inductive Course : Phase → List Sent → Prop where
  | listing : Course .listing []
  | dispatching {listing x known} (sent : a.message a.listing = .ok listing)
      (snapshot : Lists x known) :
      Course (.dispatching (known.map (·.id.value))) [(listing, x)]
  | pausing {known misses sent} (sought : Sought a slug known misses sent)
      (left : misses.length < a.lookupAttempts) :
      Course (.pausing (known.map (·.id.value)) misses.length) sent
  | looking {known misses sent} (sought : Sought a slug known misses sent)
      (left : misses.length < a.lookupAttempts) :
      Course (.looking (known.map (·.id.value)) misses.length) sent
  | located {run sent} (transcript : StartTranscript a slug run sent) :
      Course (.ended (.ok run)) sent
  | failed {failure sent} : Course (.ended (.error failure)) sent

end Course

/-- What may be answered to a question of a start, and the messages that it takes. -/
def Answers (a : Account) : (q : Question) → Answer q → List Sent → Prop
  | .send request, x, sent =>
    (∃ m, a.message request = .ok m ∧ sent = [(m, x)]) ∨
      (∃ failure, x = .error (.raw failure)) ∧ sent = []
  | .pause _, _, sent => sent = []

section Step

variable {a : Account} {slug : String} {sent : List Sent}

/-- The next attempt is made if one is left. -/
lemma Sought.seek {known : List ListedRun} {misses : List Exchange}
    (h : Sought a slug known misses sent) (log : List Log.Entry) :
    Course a slug (seek a slug (known.map (·.id.value)) misses.length log).phase sent := by
  unfold Start.seek
  split
  · rename_i left
    split
    · exact .pausing h left
    · exact .looking h left
  · exact .failed

/-- One more list without a fresh run. -/
lemma Sought.miss {known runs : List ListedRun} {misses : List Exchange} {m : Message}
    {x : Exchange} (h : Sought a slug known misses sent) (hm : a.message a.listing = .ok m)
    (hlists : Lists x runs) (hnone : ∀ r ∈ runs, ¬ Fresh known slug r) :
    Sought a slug known (misses ++ [x]) (sent ++ [(m, x)]) := by
  obtain ⟨listing_sent, dispatch_sent, snapshot, accepted, missed⟩ := h
  obtain rfl := Except.ok.inj (hm.symm.trans listing_sent)
  rw [List.cons_append, List.cons_append, ← List.map_singleton, ← List.map_append]
  refine .intro listing_sent dispatch_sent snapshot accepted fun miss hmiss => ?_
  rcases List.mem_append.mp hmiss with hold | hnew
  · exact missed miss hold
  · exact List.mem_singleton.mp hnew ▸ ⟨runs, hlists, hnone⟩

/-- A list with a fresh run. -/
lemma Sought.hit {known earlier later : List ListedRun} {run : ListedRun} {misses : List Exchange}
    {m : Message} {x : Exchange} (h : Sought a slug known misses sent)
    (hm : a.message a.listing = .ok m) (left : misses.length < a.lookupAttempts)
    (hlists : Lists x (earlier ++ run :: later)) (fresh : Fresh known slug run)
    (first : ∀ r ∈ earlier, ¬ Fresh known slug r) :
    StartTranscript a slug ⟨run.id, run.url⟩ (sent ++ [(m, x)]) := by
  obtain ⟨listing_sent, dispatch_sent, snapshot, accepted, missed⟩ := h
  obtain rfl := Except.ok.inj (hm.symm.trans listing_sent)
  exact .intro (Account.message_asks hm) (Account.message_asks dispatch_sent) snapshot accepted
    missed left hlists fresh first

/-- An answer of the service is the answer to a message. -/
lemma Answers.message {request : Request} {x : Exchange}
    (h : Answers a (.send request) x sent) (hx : ∃ response, x = .ok response) :
    ∃ m, a.message request = .ok m ∧ sent = [(m, x)] := by
  rcases h with hsent | ⟨⟨failure, rfl⟩, _⟩
  · exact hsent
  · obtain ⟨response, hx⟩ := hx
    cases hx

/-- Every answered question takes what was sent in one phase to what was sent in the next. -/
theorem Course.step {s : State} {log : List Log.Entry} {q : Question} {resume : Answer q → State}
    {x : Answer q} {more : List Sent} (h : Course a slug s.phase sent)
    (hask : next a slug s = .ask log q resume) (hx : Answers a q x more) :
    Course a slug (resume x).phase (sent ++ more) := by
  obtain ⟨entries, phase⟩ := s
  cases h with
  | listing =>
    cases hask
    dsimp only
    split
    · exact .failed
    · rename_i runs hruns
      have hlists := Account.runsOf_ok hruns
      obtain ⟨m, hm, rfl⟩ := Answers.message hx hlists.answered
      exact .dispatching hm hlists
  | @dispatching listing x known listing_sent snapshot =>
    cases hask
    dsimp only
    split
    · exact .failed
    · rename_i payload hpayload
      obtain ⟨response, hok, haccepted, _⟩ := Request.payload_ok hpayload
      obtain ⟨m, hm, rfl⟩ := Answers.message hx ⟨response, hok⟩
      have hsought : Sought a slug known [] _ :=
        .intro listing_sent hm snapshot ⟨response, hok, haccepted⟩ fun miss hmiss => nomatch hmiss
      exact hsought.seek _
  | pausing sought left =>
    cases hask
    obtain rfl : more = [] := hx
    rw [List.append_nil]
    exact .looking sought left
  | looking sought left =>
    cases hask
    dsimp only
    split
    · exact .failed
    · rename_i runs hruns
      have hlists := Account.runsOf_ok hruns
      obtain ⟨m, hm, rfl⟩ := Answers.message hx hlists.answered
      split
      · rename_i run hfound
        obtain ⟨earlier, later, rfl, fresh, first⟩ := firstFresh_iff.mpr hfound
        exact .located (sought.hit hm left hlists fresh first)
      · rename_i hnone
        have hmiss := (sought.miss hm hlists (stale_iff.mpr hnone)).seek []
        rwa [List.length_append] at hmiss
  | located _ | failed => cases hask

/-- A start is over in the phase that holds its result. -/
lemma phase_of_done {s : State} {log : List Log.Entry} {result : Except Failure RunHandle}
    (h : next a slug s = .done log result) : s.phase = .ended result := by
  obtain ⟨entries, phase⟩ := s
  cases phase with
  | ended result' =>
    cases h
    rfl
  | _ => cases h

end Step

end Start

/-! ### The client of an account -/

section Client

variable {ρ : Type} (env : Environment ρ) (send : Message → StateM ρ Exchange) (a : Account)

/-- A transport that notes every message that is sent, and does nothing but send. -/
def transport : Transport (Play ρ) where
  send m := Play.noted (fun _ _ => .send m) (Play.outside (send m))
  pause span := Play.outside (env.clock.pause span)
  write e := Play.outside (env.write e)

/-- What is sent for one request. -/
lemma exchange_answers (request : Request) (w : World ρ) :
    let exchange := (a.exchange (transport env send) request).run w
    ∃ sent, Start.Answers a (.send request) exchange.1 sent ∧
      exchange.2.toScene = w.toScene.after (sent.map Call.ofSent) w.store := by
  intro exchange
  cases hm : a.message request with
  | error failure =>
    have hexchange : exchange = (.error (.raw failure), w) := by
      simp only [exchange, Account.exchange, hm]
      rfl
    rw [hexchange]
    exact ⟨[], .inr ⟨⟨failure, rfl⟩, rfl⟩, w.toScene.after_nil.symm⟩
  | ok m =>
    have hexchange : exchange = ((transport env send).send m).run w := by
      simp only [exchange, Account.exchange, hm]
    rw [hexchange]
    refine ⟨_, .inl ⟨m, hm, rfl⟩, ?_⟩
    have hscene : ((Play.outside (send m)).run w).2.toScene = w.toScene.after [] w.store :=
      w.toScene.after_nil.symm
    exact Play.noted_scene (fun _ _ => .send m) hscene

/-- What is sent for one question of a start. -/
lemma start_answers (q : Start.Question) (w : World ρ) :
    let answered := (Start.answer a (transport env send) q).run w
    ∃ sent, Start.Answers a q answered.1 sent ∧
      answered.2.toScene = w.toScene.after (sent.map Call.ofSent) w.store := by
  cases q with
  | send request => exact exchange_answers env send a request w
  | pause span => exact ⟨[], rfl, w.toScene.after_nil.symm⟩

/-- The result of a start, given the result of its run. -/
def startResult (slug : String) (outcome : Option (Except Failure RunHandle)) :
    Except Failure RunHandle :=
  outcome.getD (.error (.workflow ⟨.runNotFound a.workflow slug a.lookupAttempts, none⟩))

/-- Only a run that located its run gives a handle. -/
lemma startResult_eq_ok {slug : String} {outcome : Option (Except Failure RunHandle)}
    {run : RunHandle} (h : startResult a slug outcome = .ok run) : outcome = some (.ok run) := by
  cases outcome with
  | none => cases h
  | some result => exact congrArg some h

/-- For a slug that is not blank, a start is a run of the procedure. -/
lemma start_of_slug {m : Type → Type} [Monad m] [LawfulMonad m] (transport : Transport m)
    {inst : Instance} (hslug : Text.strip inst.slug ≠ "") :
    a.start transport inst = startResult a (Text.strip inst.slug) <$>
      Procedure.run (Start.answer a transport) transport.write
        (Start.next a (Text.strip inst.slug)) a.startHorizon Start.State.initial := by
  simp only [Account.start, if_neg hslug, map_eq_pure_bind]
  congr 1
  funext outcome
  cases outcome with
  | none => rfl
  | some result => rfl

/-- What is sent for a start. -/
lemma start_service (inst : Instance) (w : World ρ) :
    let started := (a.start (transport env send) inst).run w
    ∃ sent, a.service.starts inst started.1 sent ∧
      started.2.toScene = w.toScene.after (sent.map Call.ofSent) w.store := by
  intro started
  by_cases hblank : Text.strip inst.slug = ""
  · have hstarted : started = (.error (.workflow ⟨.blankSlug, none⟩), w) := by
      simp only [started, Account.start, if_pos hblank]
      rfl
    rw [hstarted]
    refine ⟨[], fun run hrun => ?_, w.toScene.after_nil.symm⟩
    cases hrun
  · let Inv (s : Start.State) (v : Scene) : Prop := ∃ sent,
      Start.Course a (Text.strip inst.slug) s.phase sent ∧
        v = w.toScene.after (sent.map Call.ofSent) w.store
    have hstart : Inv Start.State.initial w.toScene :=
      ⟨[], .listing, w.toScene.after_nil.symm⟩
    have hkeep : ∀ {s v log q resume x v'}, Inv s v →
        Start.next a (Text.strip inst.slug) s = .ask log q resume →
        (∃ more, Start.Answers a q x more ∧ v' = v.after (more.map Call.ofSent) v.store) →
        Inv (resume x) v' := by
      rintro s v log q resume x v' ⟨sent, hcourse, rfl⟩ hask ⟨more, hx, rfl⟩
      refine ⟨sent ++ more, hcourse.step hask hx, ?_⟩
      rw [Scene.after_after, Scene.after_store, List.map_append]
    have hwrite : ∀ e (v : World ρ),
        (((transport env send).write e).run v).2.toScene = v.toScene := fun _ _ => rfl
    obtain ⟨s, ⟨sent, hcourse, hscene⟩, hend⟩ :=
      Procedure.run_invariant hwrite (start_answers env send a) hkeep a.startHorizon hstart
    simp only [started, start_of_slug a (transport env send) hblank, Play.run_map]
    refine ⟨sent, fun run hrun => ?_, hscene⟩
    obtain ⟨log, hdone⟩ := hend _ (startResult_eq_ok a hrun)
    rw [Start.phase_of_done hdone] at hcourse
    cases hcourse with
    | located transcript => exact transcript

/-- What is sent for a poll. -/
lemma poll_service (run : RunHandle) (w : World ρ) :
    let polled := (a.poll (transport env send) run).run w
    ∃ sent, a.service.polls run polled.1 sent ∧
      polled.2.toScene = w.toScene.after (sent.map Call.ofSent) w.store := by
  intro polled
  obtain ⟨sent, hsent, hscene⟩ := exchange_answers env send a (a.runState run.id) w
  refine ⟨sent, fun status hstatus => ?_, hscene⟩
  obtain ⟨members, hdescribes, htold⟩ := Account.statusOf_ok hstatus
  obtain ⟨m, hm, rfl⟩ := Start.Answers.message hsent hdescribes.answered
  exact .intro (Account.message_asks hm) hdescribes htold

/-- Over a transport that does nothing but send, the client of an account keeps to the service of
the account. -/
theorem client_keepsTo : (a.client (transport env send)).KeepsTo a.service where
  source _ := rfl
  start := start_service env send a
  poll := poll_service env send a

end Client

end Teardown.Github
