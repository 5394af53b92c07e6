import Mathlib.Data.List.Nodup
import Mathlib.Tactic.Lemma
import Teardown.Task.Runner

/-!
# The queue and its history

A queue is called in any order and with any ids: tasks are submitted, the next task is fetched, and
tasks are acknowledged, also such that are unknown, still pending, finished or forgotten.  The log
of the calls with their answers says which tasks were submitted, which were handed out and which
were acknowledged, and how.

`Follows` says that the three parts of the queue are determined by this log: the pending tasks are
those that were submitted and not handed out, the tasks in flight are those that were handed out and
not acknowledged, and the finished tasks are the latest acknowledgements.  Every call keeps this
up (`Follows.step`), as long as no id is submitted twice, and all that the queue answers about a
task can be read off the log (`serve_refines`).
-/

namespace Teardown.Queue

/-! ### Calls and their log -/

/-- A call of the queue.  A submission comes with the id that is drawn for it. -/
inductive Call where
  | submit (id text : String)
  | fetch
  | complete (id : String)
  | fail (id message : String)

/-- An answer of the queue. -/
inductive Answer where
  | submitted (id : String)
  | handed (task : Option QueuedTask)
  | acknowledged
  | refused (reason : Refusal)
  | failed (failure : Failure)

/-- A call with its answer. -/
structure Entry where
  call : Call
  answer : Answer

/-- The call was rejected. -/
def Answer.Rejected : Answer → Prop
  | .refused _ | .failed _ => True
  | .submitted _ | .handed _ | .acknowledged => False

/-- A runner that gives one id to submitted tasks. -/
def submitter (id : String) : Runner (StateM Queue) where
  registry := {}
  newId := pure id
  write _ := pure ()

/-- The answer to an acknowledgement. -/
def Answer.ofExcept : Except Failure Unit → Answer
  | .ok _ => .acknowledged
  | .error failure => .failed failure

/-- Answers a call. -/
def perform : Call → StateM Queue Answer
  | .submit id text => do
    match ← (submitter id).enqueue text with
    | .ok id => return .submitted id
    | .error reason => return .refused reason
  | .fetch => return .handed (← Runner.fetch)
  | .complete id => return .ofExcept (← Runner.acknowledge id none)
  | .fail id message => return .ofExcept (← Runner.acknowledge id (some message))

/-- Answers calls one after the other. -/
def serve : List Call → StateM Queue (List Entry)
  | [] => return []
  | call :: calls => do
    let answer ← perform call
    return ⟨call, answer⟩ :: (← serve calls)

/-- The acknowledgement that a call asks for: an id, and the message given if the task failed. -/
def Call.mark? : Call → Option (String × Option String)
  | .complete id => some (id, none)
  | .fail id message => some (id, some message)
  | .submit _ _ | .fetch => none

/-- The task that an entry submits. -/
def Entry.submitted? : Entry → Option QueuedTask
  | ⟨.submit _ text, .submitted id⟩ => some ⟨id, text⟩
  | _ => none

/-- The task that an entry hands out. -/
def Entry.handed? : Entry → Option QueuedTask
  | ⟨_, .handed task⟩ => task
  | _ => none

/-- The acknowledgement of an entry. -/
def Entry.mark? : Entry → Option (String × Option String)
  | ⟨call, .acknowledged⟩ => call.mark?
  | _ => none

/-- What is chosen of a list with one more entry. -/
lemma filterMap_concat {α β : Type} (f : α → Option β) (xs : List α) (x : α) :
    (xs ++ [x]).filterMap f = xs.filterMap f ++ (f x).toList := by
  rw [List.filterMap_append]
  cases h : f x with
  | none => rw [List.filterMap_cons_none h, List.filterMap_nil, Option.toList_none]
  | some y => rw [List.filterMap_cons_some h, List.filterMap_nil, Option.toList_some]

section Log

variable (log : List Entry)

/-- The tasks that were submitted. -/
def submitted : List QueuedTask := log.filterMap Entry.submitted?

/-- The tasks that were handed out. -/
def handedOut : List QueuedTask := log.filterMap Entry.handed?

/-- The acknowledgements. -/
def marks : List (String × Option String) := log.filterMap Entry.mark?

lemma submitted_concat (entry : Entry) :
    submitted (log ++ [entry]) = submitted log ++ entry.submitted?.toList :=
  filterMap_concat ..

lemma handedOut_concat (entry : Entry) :
    handedOut (log ++ [entry]) = handedOut log ++ entry.handed?.toList :=
  filterMap_concat ..

lemma marks_concat (entry : Entry) :
    marks (log ++ [entry]) = marks log ++ entry.mark?.toList :=
  filterMap_concat ..

end Log

/-- The ids of some tasks. -/
def ids (tasks : List QueuedTask) : List String := tasks.map (·.id)

/-- The latest entries of a list. -/
def latest {α : Type} (limit : Nat) (xs : List α) : List α :=
  xs.drop (xs.length - limit)

/-! ### What a call does -/

/-- The queue after an acknowledgement. -/
def marked (id : String) (failure : Option String) (q : Queue) : Queue :=
  { q with
    inFlight := q.inFlight.filter (·.id != id)
    finished := latest q.history (q.finished ++ [(id, failure)]) }

/-- All that a call can do. -/
inductive Does (q : Queue) : Call → Answer → Queue → Prop where
  | submit {id text} (valid : Text.isAllBlank text = false) :
      Does q (.submit id text) (.submitted id) (q.push id text)
  | refuse {id text} (blank : Text.isAllBlank text = true) :
      Does q (.submit id text) (.refused (.blank "serialized_task")) q
  | hand {task rest} (next : q.pending = task :: rest) :
      Does q .fetch (.handed (some task))
        { q with pending := rest, inFlight := q.inFlight ++ [task] }
  | idle (empty : q.pending = []) : Does q .fetch (.handed none) q
  | mark {call id failure} (asks : call.mark? = some (id, failure)) (flying : id ∈ ids q.inFlight) :
      Does q call .acknowledged (q.marked id failure)
  | reject {call id failure} (asks : call.mark? = some (id, failure))
      (grounded : id ∉ ids q.inFlight) : Does q call (.failed (.notInFlight id)) q

section Does

variable {q q' : Queue} {call : Call} {answer : Answer} {id : String}

/-- Whether a task is among others is decided by its id. -/
lemma any_id_iff {tasks : List QueuedTask} : tasks.any (·.id == id) = true ↔ id ∈ ids tasks := by
  simp [ids]

/-- Only a task in flight is acknowledged. -/
lemma finish_eq (id : String) (failure : Option String) (q : Queue) :
    q.finish id failure =
      if id ∈ ids q.inFlight then .ok (q.marked id failure) else .error (.notInFlight id) := by
  unfold finish
  simp only [any_id_iff]
  rfl

/-- Taking the next task out of the queue. -/
lemma run_fetch (q : Queue) : (Runner.fetch : StateM Queue _).run q =
    match q.fetch with
    | none => (none, q)
    | some (task, q') => (some task, q') := by
  change StateT.run (match q.fetch with
    | none => (pure none : StateM Queue (Option QueuedTask))
    | some (task, q) => do set q; pure (some task)) q = _
  cases q.fetch with
  | none => rfl
  | some fetched => rfl

/-- Acknowledging a task. -/
lemma run_acknowledge (id : String) (failure : Option String) (q : Queue) :
    (Runner.acknowledge id failure : StateM Queue _).run q =
      match q.finish id failure with
      | .error cause => (.error cause, q)
      | .ok q' => (.ok (), q') := by
  change StateT.run (match q.finish id failure with
    | .error cause => (pure (.error cause) : StateM Queue (Except Failure Unit))
    | .ok q => do set q; pure (.ok ())) q = _
  cases q.finish id failure with
  | error cause => rfl
  | ok q' => rfl

/-- What an acknowledgement does. -/
lemma acknowledge_does {failure : Option String} (hasks : call.mark? = some (id, failure)) :
    let acknowledged := (Runner.acknowledge id failure : StateM Queue _).run q
    Does q call (.ofExcept acknowledged.1) acknowledged.2 := by
  intro acknowledged
  have hrun := run_acknowledge id failure q
  rw [finish_eq] at hrun
  by_cases hflying : id ∈ ids q.inFlight
  · rw [if_pos hflying] at hrun
    simp only [acknowledged, hrun]
    exact .mark hasks hflying
  · rw [if_neg hflying] at hrun
    simp only [acknowledged, hrun]
    exact .reject hasks hflying

/-- Every call does what it can do. -/
theorem perform_does (call : Call) (q : Queue) :
    Does q call ((perform call).run q).1 ((perform call).run q).2 := by
  cases call with
  | submit id text =>
    cases hblank : Text.isAllBlank text with
    | false =>
      have hperform : (perform (.submit id text)).run q = (.submitted id, q.push id text) := by
        simp only [perform, Runner.enqueue, check, hblank]
        rfl
      rw [hperform]
      exact .submit hblank
    | true =>
      have hperform : (perform (.submit id text)).run q =
          (.refused (.blank "serialized_task"), q) := by
        simp only [perform, Runner.enqueue, check, hblank]
        rfl
      rw [hperform]
      exact .refuse hblank
  | fetch =>
    have hrun : (perform .fetch).run q = (.handed ((Runner.fetch : StateM Queue _).run q).1,
      ((Runner.fetch : StateM Queue _).run q).2) := rfl
    rw [hrun, run_fetch]
    cases hpending : q.pending with
    | nil =>
      have hfetch : q.fetch = none := by rw [fetch, hpending]
      rw [hfetch]
      exact .idle hpending
    | cons task rest =>
      have hfetch : q.fetch =
          some (task, { q with pending := rest, inFlight := q.inFlight ++ [task] }) := by
        rw [fetch, hpending]
      rw [hfetch]
      exact .hand hpending
  | complete id => exact acknowledge_does rfl
  | fail id message => exact acknowledge_does rfl

/-- A text is refused exactly if it is blank. -/
lemma Does.refused_iff {reason : Refusal} (h : Does q call answer q') :
    answer = .refused reason ↔ ∃ id text, call = .submit id text ∧ Text.isAllBlank text = true ∧
      reason = .blank "serialized_task" := by
  constructor
  · rintro rfl
    cases h with
    | refuse blank => exact ⟨_, _, rfl, blank, rfl⟩
  · rintro ⟨id, text, rfl, hblank, rfl⟩
    cases h with
    | submit valid =>
      rw [hblank] at valid
      cases valid
    | refuse => rfl
    | mark asks | reject asks => cases asks

/-- An acknowledgement fails exactly if the task is not in flight. -/
lemma Does.failed_iff {failure : Failure} (h : Does q call answer q') :
    answer = .failed failure ↔ ∃ id message, call.mark? = some (id, message) ∧
      id ∉ ids q.inFlight ∧ failure = .notInFlight id := by
  constructor
  · rintro rfl
    cases h with
    | reject asks grounded => exact ⟨_, _, asks, grounded, rfl⟩
  · rintro ⟨id, message, hasks, hgrounded, rfl⟩
    cases h with
    | submit | refuse | hand | idle => cases hasks
    | mark asks flying =>
      rw [asks] at hasks
      cases hasks
      exact absurd flying hgrounded
    | reject asks =>
      rw [asks] at hasks
      cases hasks
      rfl

/-- A rejected call changes nothing. -/
lemma Does.unchanged (h : Does q call answer q') (hrejected : answer.Rejected) : q' = q := by
  cases h with
  | refuse | reject => rfl
  | submit | hand | idle | mark => cases hrejected

end Does

/-! ### The latest entries -/

section Latest

variable {α : Type} {limit : Nat} {xs ys : List α}

lemma latest_suffix (limit : Nat) (xs : List α) : latest limit xs <:+ xs :=
  List.drop_suffix _ _

lemma length_latest (limit : Nat) (xs : List α) :
    (latest limit xs).length = min limit xs.length := by
  rw [latest, List.length_drop]
  omega

/-- What was dropped before need not be kept for later. -/
lemma latest_latest_append (limit : Nat) (xs ys : List α) :
    latest limit (latest limit xs ++ ys) = latest limit (xs ++ ys) := by
  unfold latest
  rw [← List.drop_append_of_le_length (Nat.sub_le _ _), List.drop_drop, List.length_drop,
    List.length_append]
  congr 1
  omega

/-- Of the latest entries, none is new but the appended ones. -/
lemma mem_latest_append {x : α} (h : x ∈ latest limit (xs ++ ys)) :
    x ∈ latest limit xs ∨ x ∈ ys := by
  unfold latest at h
  rw [List.drop_append] at h
  rcases List.mem_append.mp h with hold | hnew
  · refine .inl (List.drop_subset_drop_left xs ?_ hold)
    rw [List.length_append]
    omega
  · exact .inr (List.mem_of_mem_drop hnew)

end Latest

/-! ### The parts of the queue -/

/-- The parts of a queue are determined by the tasks that were submitted, the tasks that were handed
out, and the acknowledgements. -/
structure Follows (limit : Nat) (added given : List QueuedTask)
    (noted : List (String × Option String)) (q : Queue) : Prop where
  history : q.history = limit
  queued : given ++ q.pending = added
  flying : q.inFlight = given.filter (·.id ∉ noted.map Prod.fst)
  finished : q.finished = latest limit noted
  handed : noted.map Prod.fst ⊆ ids given
  once : (noted.map Prod.fst).Nodup

section Follows

variable {limit : Nat} {added given : List QueuedTask} {noted : List (String × Option String)}
variable {q q' : Queue} {id : String}

/-- Nothing has happened to a new queue. -/
lemma Follows.opening (limit : Nat) : Follows limit [] [] [] { history := limit } where
  history := rfl
  queued := rfl
  flying := rfl
  finished := List.drop_nil.symm
  handed := List.nil_subset _
  once := List.nodup_nil

/-- A task is in flight if it was handed out and not acknowledged. -/
lemma Follows.mem_inFlight (h : Follows limit added given noted q) :
    id ∈ ids q.inFlight ↔ id ∈ ids given ∧ id ∉ noted.map Prod.fst := by
  rw [h.flying]
  constructor
  · intro hid
    obtain ⟨task, htask, rfl⟩ := List.mem_map.mp hid
    obtain ⟨hgiven, hunmarked⟩ := List.mem_filter.mp htask
    exact ⟨List.mem_map_of_mem hgiven, of_decide_eq_true hunmarked⟩
  · rintro ⟨hid, hunmarked⟩
    obtain ⟨task, hgiven, rfl⟩ := List.mem_map.mp hid
    exact List.mem_map_of_mem (List.mem_filter.mpr ⟨hgiven, decide_eq_true hunmarked⟩)

/-- The ids of the tasks that were handed out, and of those that wait. -/
lemma Follows.ids_added (h : Follows limit added given noted q) :
    ids added = ids given ++ ids q.pending := by
  rw [← h.queued]
  exact List.map_append

/-- A submitted task waits behind the others. -/
lemma Follows.push {text : String} (h : Follows limit added given noted q) :
    Follows limit (added ++ [⟨id, text⟩]) given noted (q.push id text) where
  history := h.history
  queued := by
    rw [← h.queued, List.append_assoc]
    rfl
  flying := h.flying
  finished := h.finished
  handed := h.handed
  once := h.once

/-- A task that is handed out was not acknowledged before. -/
lemma Follows.hand {task : QueuedTask} {rest : List QueuedTask}
    (h : Follows limit added given noted q) (hdistinct : (ids added).Nodup)
    (hnext : q.pending = task :: rest) :
    Follows limit added (given ++ [task]) noted
      { q with pending := rest, inFlight := q.inFlight ++ [task] } where
  history := h.history
  queued := by
    rw [← h.queued, hnext, List.append_assoc]
    rfl
  flying := by
    have hunmarked : task.id ∉ noted.map Prod.fst := by
      intro hnoted
      rw [h.ids_added, hnext] at hdistinct
      exact List.disjoint_of_nodup_append hdistinct (h.handed hnoted) List.mem_cons_self
    have hlast : [task].filter (·.id ∉ noted.map Prod.fst) = [task] :=
      List.filter_eq_self.mpr fun other hother =>
        List.mem_singleton.mp hother ▸ decide_eq_true hunmarked
    rw [List.filter_append, ← h.flying, hlast]
  finished := h.finished
  handed := by
    rw [ids, List.map_append]
    exact List.subset_append_of_subset_left _ h.handed
  once := h.once

/-- An acknowledged task was handed out, and it was not acknowledged before. -/
lemma Follows.mark {failure : Option String} (h : Follows limit added given noted q)
    (hflying : id ∈ ids q.inFlight) :
    Follows limit added given (noted ++ [(id, failure)]) (q.marked id failure) where
  history := h.history
  queued := h.queued
  flying := by
    have hfilter : (q.marked id failure).inFlight = q.inFlight.filter (·.id != id) := rfl
    rw [hfilter, h.flying, List.filter_filter]
    refine List.filter_congr fun task _ => ?_
    rw [List.map_append, Bool.eq_iff_iff]
    simp [and_comm]
  finished := by
    have hfinished : (q.marked id failure).finished =
        latest q.history (q.finished ++ [(id, failure)]) := rfl
    rw [hfinished, h.history, h.finished, latest_latest_append]
  handed := by
    rw [List.map_append]
    exact List.append_subset.mpr
      ⟨h.handed, List.cons_subset.mpr ⟨(h.mem_inFlight.mp hflying).1, List.nil_subset _⟩⟩
  once := by
    rw [List.map_append]
    refine List.nodup_append.mpr ⟨h.once, List.nodup_singleton _, ?_⟩
    intro other hother other' hother' hsame
    rw [hsame, List.mem_singleton.mp hother'] at hother
    exact (h.mem_inFlight.mp hflying).2 hother

end Follows

/-! ### Runs of the queue -/

section Serve

variable {limit : Nat} {log : List Entry} {q q' : Queue} {call : Call} {answer : Answer}

/-- The parts of a queue are determined by the log of its calls. -/
abbrev FollowsLog (limit : Nat) (log : List Entry) (q : Queue) : Prop :=
  Follows limit (submitted log) (handedOut log) (marks log) q

/-- Whatever a call does, the parts of the queue stay determined by the log. -/
lemma Follows.step (h : FollowsLog limit log q) (hdistinct : (ids (submitted log)).Nodup)
    (hdoes : Does q call answer q') : FollowsLog limit (log ++ [⟨call, answer⟩]) q' := by
  unfold FollowsLog
  rw [submitted_concat, handedOut_concat, marks_concat]
  cases hdoes with
  | submit valid =>
    simp only [Entry.handed?, Entry.mark?, Option.toList_none, List.append_nil]
    exact h.push
  | hand next =>
    simp only [Entry.submitted?, Entry.mark?, Option.toList_none, List.append_nil]
    exact h.hand hdistinct next
  | mark asks flying =>
    simp only [Entry.submitted?, Entry.handed?, Entry.mark?, asks, Option.toList_none,
      List.append_nil]
    exact h.mark flying
  | refuse | idle | reject =>
    simp only [Entry.submitted?, Entry.handed?, Entry.mark?, Option.toList_none, List.append_nil]
    exact h

/-- The first call is answered before the others. -/
lemma serve_cons (call : Call) (calls : List Call) (q : Queue) :
    (serve (call :: calls)).run q =
      (⟨call, ((perform call).run q).1⟩ :: ((serve calls).run ((perform call).run q).2).1,
        ((serve calls).run ((perform call).run q).2).2) := rfl

/-- The log notes the calls. -/
lemma map_call_serve (calls : List Call) (q : Queue) :
    ((serve calls).run q).1.map Entry.call = calls := by
  induction calls generalizing q with
  | nil => rfl
  | cons call calls ih =>
    rw [serve_cons, List.map_cons, ih]

/-- Calls after calls. -/
lemma serve_append (calls more : List Call) (q : Queue) :
    (serve (calls ++ more)).run q =
      (((serve calls).run q).1 ++ ((serve more).run ((serve calls).run q).2).1,
        ((serve more).run ((serve calls).run q).2).2) := by
  induction calls generalizing q with
  | nil => rfl
  | cons call calls ih =>
    rw [List.cons_append, serve_cons, ih, serve_cons]
    rfl

/-- Whatever is called, the parts of the queue stay determined by the log. -/
lemma serve_follows (calls : List Call) (h : FollowsLog limit log q)
    (hdistinct : (ids (submitted (log ++ ((serve calls).run q).1))).Nodup) :
    FollowsLog limit (log ++ ((serve calls).run q).1) ((serve calls).run q).2 := by
  induction calls generalizing log q with
  | nil =>
    have hnil : log ++ ((serve []).run q).1 = log := List.append_nil log
    rw [hnil]
    exact h
  | cons call calls ih =>
    have hcons : log ++ ((serve (call :: calls)).run q).1 =
        (log ++ [⟨call, ((perform call).run q).1⟩]) ++
          ((serve calls).run ((perform call).run q).2).1 := by
      rw [serve_cons, List.append_assoc]
      rfl
    rw [hcons] at hdistinct ⊢
    refine ih (h.step ?_ (perform_does call q)) hdistinct
    refine hdistinct.sublist (List.Sublist.map _ (List.Sublist.filterMap _ ?_))
    rw [List.append_assoc]
    exact List.sublist_append_left _ _

end Serve

/-! ### The place of a task -/

/-- The places of a task, in the order in which it moves through them. -/
inductive Place where
  | pending
  | inFlight
  | remembered
  | forgotten
deriving DecidableEq

/-- How many places come before a place. -/
def Place.rank : Place → Nat
  | .pending => 0
  | .inFlight => 1
  | .remembered => 2
  | .forgotten => 3

lemma Place.rank_injective : Function.Injective Place.rank := by
  intro place place' h
  cases place <;> cases place' <;> simp_all [rank]

/-- The place where a task is: in one of the parts of the queue, or forgotten, when it was
acknowledged and is not one of the finished tasks any more. -/
def Holds (noted : List (String × Option String)) (q : Queue) (id : String) : Place → Prop
  | .pending => id ∈ ids q.pending
  | .inFlight => id ∈ ids q.inFlight
  | .remembered => id ∈ q.finished.map Prod.fst
  | .forgotten => id ∈ noted.map Prod.fst ∧ id ∉ q.finished.map Prod.fst

section Place

variable {limit : Nat} {added given added' given' : List QueuedTask}
variable {noted noted' : List (String × Option String)} {q q' : Queue} {id : String}

/-- A task waits if it was submitted and not handed out. -/
lemma Follows.mem_pending (h : Follows limit added given noted q) (hdistinct : (ids added).Nodup) :
    id ∈ ids q.pending ↔ id ∈ ids added ∧ id ∉ ids given := by
  rw [h.ids_added] at hdistinct ⊢
  constructor
  · intro hid
    exact ⟨List.mem_append_right _ hid, fun hgiven =>
      List.disjoint_of_nodup_append hdistinct hgiven hid⟩
  · rintro ⟨hid, hgiven⟩
    exact (List.mem_append.mp hid).resolve_left hgiven

/-- A task that was handed out was submitted. -/
lemma Follows.given_subset (h : Follows limit added given noted q) : ids given ⊆ ids added := by
  rw [h.ids_added]
  exact List.subset_append_left _ _

/-- A finished task was acknowledged. -/
lemma Follows.finished_subset (h : Follows limit added given noted q) :
    q.finished.map Prod.fst ⊆ noted.map Prod.fst := by
  rw [h.finished]
  exact List.map_subset _ (latest_suffix limit noted).subset

/-- A task that does not wait was handed out, and one that is not in flight either was
acknowledged. -/
lemma Follows.reached {place : Place} (h : Follows limit added given noted q)
    (hplace : Holds noted q id place) :
    (1 ≤ place.rank → id ∈ ids given) ∧ (2 ≤ place.rank → id ∈ noted.map Prod.fst) := by
  cases place with
  | pending => exact ⟨fun hrank => absurd hrank (by decide), fun hrank => absurd hrank (by decide)⟩
  | inFlight =>
    exact ⟨fun _ => (h.mem_inFlight.mp hplace).1, fun hrank => absurd hrank (by decide)⟩
  | remembered =>
    have hnoted := h.finished_subset hplace
    exact ⟨fun _ => h.handed hnoted, fun _ => hnoted⟩
  | forgotten => exact ⟨fun _ => h.handed hplace.1, fun _ => hplace.1⟩

/-- A task never goes back: its place is not before the place where it was when fewer tasks were
handed out and acknowledged. -/
lemma Follows.rank_le {place place' : Place} (h : Follows limit added given noted q)
    (h' : Follows limit added' given' noted' q') (hdistinct : (ids added').Nodup)
    (hgiven : given ⊆ given') (hlater : noted <+: noted') (hplace : Holds noted q id place)
    (hplace' : Holds noted' q' id place') : place.rank ≤ place'.rank := by
  obtain ⟨later, rfl⟩ := hlater
  obtain ⟨hhanded, hnoted⟩ := h.reached hplace
  by_contra hback
  have hless : place'.rank < place.rank := Nat.lt_of_not_le hback
  cases place' with
  | pending =>
    exact ((h'.mem_pending hdistinct).mp hplace').2 (List.map_subset _ hgiven (hhanded hless))
  | inFlight =>
    refine (h'.mem_inFlight.mp hplace').2 ?_
    rw [List.map_append]
    exact List.mem_append_left _ (hnoted hless)
  | remembered =>
    cases place with
    | forgotten =>
      obtain ⟨hmark, hgone⟩ := hplace
      obtain ⟨mark, hlatest, rfl⟩ := List.mem_map.mp hplace'
      rw [h'.finished] at hlatest
      rcases mem_latest_append hlatest with hold | hnew
      · rw [← h.finished] at hold
        exact hgone (List.mem_map_of_mem hold)
      · -- The task would have been acknowledged twice.
        have honce := h'.once
        rw [List.map_append] at honce
        exact List.disjoint_of_nodup_append honce hmark (List.mem_map_of_mem hnew)
    | pending | inFlight | remembered => exact absurd hless (by decide)
  | forgotten =>
    cases place with
    | pending | inFlight | remembered | forgotten => exact absurd hless (by decide)

/-- A task is at one place at most. -/
lemma Follows.holds_unique {place place' : Place} (h : Follows limit added given noted q)
    (hdistinct : (ids added).Nodup) (hplace : Holds noted q id place)
    (hplace' : Holds noted q id place') : place = place' := by
  have hle : ∀ {place place'}, Holds noted q id place → Holds noted q id place' →
      place.rank ≤ place'.rank :=
    h.rank_le h hdistinct (fun _ hmem => hmem) List.prefix_rfl
  exact Place.rank_injective (Nat.le_antisymm (hle hplace hplace') (hle hplace' hplace))

/-- Every submitted task is at exactly one place. -/
lemma Follows.existsUnique_place (h : Follows limit added given noted q)
    (hdistinct : (ids added).Nodup) (hid : id ∈ ids added) : ∃! place, Holds noted q id place := by
  refine existsUnique_of_exists_of_unique ?_ fun _ _ => h.holds_unique hdistinct
  by_cases hgiven : id ∈ ids given
  · by_cases hmark : id ∈ noted.map Prod.fst
    · by_cases hfinished : id ∈ q.finished.map Prod.fst
      · exact ⟨.remembered, hfinished⟩
      · exact ⟨.forgotten, hmark, hfinished⟩
    · exact ⟨.inFlight, h.mem_inFlight.mpr ⟨hgiven, hmark⟩⟩
  · exact ⟨.pending, (h.mem_pending hdistinct).mpr ⟨hid, hgiven⟩⟩

/-- A task that is unknown to the log is nowhere. -/
lemma Follows.mem_added_of_holds {place : Place} (h : Follows limit added given noted q)
    (hdistinct : (ids added).Nodup) (hplace : Holds noted q id place) : id ∈ ids added := by
  cases place with
  | pending => exact ((h.mem_pending hdistinct).mp hplace).1
  | inFlight | remembered | forgotten =>
    exact h.given_subset ((h.reached hplace).1 (by decide))

end Place

/-! ### What the queue answers about a task -/

/-- What the log and the place of a task say about its state. -/
def Described (added : List QueuedTask) (noted : List (String × Option String)) (q : Queue)
    (id : String) : TaskState → Prop
  | .pending => Holds noted q id .pending
  | .running => Holds noted q id .inFlight
  | .completed => Holds noted q id .remembered ∧ (id, none) ∈ noted
  | .failed => Holds noted q id .remembered ∧ ∃ message, (id, some message) ∈ noted
  | .unknown => Holds noted q id .forgotten ∨ id ∉ ids added

section State

variable {limit : Nat} {added given : List QueuedTask} {noted : List (String × Option String)}
variable {q : Queue} {id : String}

/-- A finished task is found under its id, with what was noted about it. -/
lemma Follows.lookup_finished (h : Follows limit added given noted q) {failure : Option String} :
    q.finished.lookup id = some failure ↔ Holds noted q id .remembered ∧ (id, failure) ∈ noted := by
  have hnoted : ∀ mark ∈ q.finished, mark ∈ noted := fun mark hmark =>
    (latest_suffix limit noted).subset (h.finished ▸ hmark)
  constructor
  · intro hlookup
    obtain ⟨earlier, later, hsplit, _⟩ := List.lookup_eq_some_iff.mp hlookup
    have hmem : (id, failure) ∈ q.finished := by
      rw [hsplit]
      exact List.mem_append_right _ List.mem_cons_self
    exact ⟨List.mem_map_of_mem hmem, hnoted _ hmem⟩
  · rintro ⟨hremembered, hmark⟩
    cases hlookup : q.finished.lookup id with
    | none =>
      obtain ⟨mark, hmem, rfl⟩ := List.mem_map.mp hremembered
      have hne := List.lookup_eq_none_iff.mp hlookup mark hmem
      rw [bne_self_eq_false] at hne
      cases hne
    | some other =>
      obtain ⟨earlier, later, hsplit, _⟩ := List.lookup_eq_some_iff.mp hlookup
      have hmem : (id, other) ∈ q.finished := by
        rw [hsplit]
        exact List.mem_append_right _ List.mem_cons_self
      exact congrArg (fun mark => some mark.2)
        (List.inj_on_of_nodup_map h.once (hnoted _ hmem) hmark rfl)

/-- A task that is not finished is looked for among those in flight, and then among those that
wait. -/
lemma state_of_not_finished (hid : id ∉ q.finished.map Prod.fst) :
    q.state id = if id ∈ ids q.inFlight then .running
      else if id ∈ ids q.pending then .pending else .unknown := by
  have hlookup : q.finished.lookup id = none := by
    refine List.lookup_eq_none_iff.mpr fun mark hmark => bne_iff_ne.mpr ?_
    rintro rfl
    exact hid (List.mem_map_of_mem hmark)
  unfold state
  rw [hlookup]
  simp only [any_id_iff]

/-- The log and the place of a task say something about its state. -/
lemma Follows.exists_described (h : Follows limit added given noted q)
    (hdistinct : (ids added).Nodup) : ∃ state, Described added noted q id state := by
  by_cases hid : id ∈ ids added
  · obtain ⟨place, hplace, _⟩ := h.existsUnique_place hdistinct hid
    cases place with
    | pending => exact ⟨.pending, hplace⟩
    | inFlight => exact ⟨.running, hplace⟩
    | remembered =>
      obtain ⟨⟨_, failure⟩, hmark, rfl⟩ := List.mem_map.mp (h.finished_subset hplace)
      cases failure with
      | none => exact ⟨.completed, hplace, hmark⟩
      | some message => exact ⟨.failed, hplace, message, hmark⟩
    | forgotten => exact ⟨.unknown, .inl hplace⟩
  · exact ⟨.unknown, .inr hid⟩

/-- The queue reports the state that the log and the place of a task say. -/
lemma Follows.state_of_described {state : TaskState} (h : Follows limit added given noted q)
    (hdistinct : (ids added).Nodup) (hstate : Described added noted q id state) :
    q.state id = state := by
  cases state with
  | pending =>
    have hpending : id ∈ ids q.pending := hstate
    have honly : ∀ place, Holds noted q id place → place = .pending := fun _ hplace =>
      h.holds_unique hdistinct hplace hstate
    have hfinished : id ∉ q.finished.map Prod.fst := fun hid => nomatch honly .remembered hid
    have hflying : id ∉ ids q.inFlight := fun hid => nomatch honly .inFlight hid
    rw [state_of_not_finished hfinished, if_neg hflying, if_pos hpending]
  | running =>
    have hflying : id ∈ ids q.inFlight := hstate
    rw [state_of_not_finished fun hid => (h.mem_inFlight.mp hflying).2 (h.finished_subset hid),
      if_pos hflying]
  | completed =>
    unfold Queue.state
    rw [h.lookup_finished.mpr hstate]
  | failed =>
    obtain ⟨hplace, message, hmark⟩ := hstate
    unfold Queue.state
    rw [h.lookup_finished.mpr ⟨hplace, hmark⟩]
  | unknown =>
    have honly : ∀ place, Holds noted q id place → place = .forgotten := by
      intro place hplace
      rcases hstate with hforgotten | hunknown
      · exact h.holds_unique hdistinct hplace hforgotten
      · exact absurd (h.mem_added_of_holds hdistinct hplace) hunknown
    have hfinished : id ∉ q.finished.map Prod.fst := fun hid => nomatch honly .remembered hid
    have hflying : id ∉ ids q.inFlight := fun hid => nomatch honly .inFlight hid
    have hpending : id ∉ ids q.pending := fun hid => nomatch honly .pending hid
    rw [state_of_not_finished hfinished, if_neg hflying, if_neg hpending]

/-- The queue reports the one state that the log and the place of a task say. -/
lemma Follows.state_eq_iff {state : TaskState} (h : Follows limit added given noted q)
    (hdistinct : (ids added).Nodup) : q.state id = state ↔ Described added noted q id state := by
  constructor
  · rintro rfl
    obtain ⟨state, hstate⟩ : ∃ state, Described added noted q id state :=
      h.exists_described hdistinct
    rwa [h.state_of_described hdistinct hstate]
  · exact h.state_of_described hdistinct

/-- The queue reports the message of a remembered task that failed, and no other. -/
lemma Follows.failureMessage_eq_iff {message : String} (h : Follows limit added given noted q) :
    q.failureMessage id = some message ↔
      Holds noted q id .remembered ∧ (id, some message) ∈ noted := by
  rw [← h.lookup_finished, failureMessage, Option.join_eq_some_iff]

end State

/-! ### The refinement -/

/-- A queue as its history has it. -/
structure Refined (limit : Nat) (log : List Entry) (q : Queue) : Prop where
  /-- The tasks are handed out in the order of their submission, with their texts. -/
  fifo : handedOut log <+: submitted log
  /-- Every submitted task is at exactly one place. -/
  placed : ∀ id ∈ ids (submitted log), ∃! place, Holds (marks log) q id place
  /-- No other task is anywhere. -/
  absent : ∀ id place, Holds (marks log) q id place → id ∈ ids (submitted log)
  /-- The finished tasks are the last acknowledgements, as many as are remembered. -/
  finished : q.finished <:+ marks log
  length_finished : q.finished.length = min limit (marks log).length
  /-- The state of a task, which is unknown exactly for tasks that are forgotten or that were never
  submitted. -/
  state : ∀ id state, q.state id = state ↔ Described (submitted log) (marks log) q id state
  /-- The message of a task, which is the one that was given for it. -/
  failureMessage : ∀ id message, q.failureMessage id = some message ↔
    Holds (marks log) q id .remembered ∧ (id, some message) ∈ marks log
  /-- A text is refused exactly if it is blank. -/
  refused : ∀ call reason, ((perform call).run q).1 = .refused reason ↔
    ∃ id text, call = .submit id text ∧ Text.isAllBlank text = true ∧
      reason = .blank "serialized_task"
  /-- An acknowledgement fails exactly if the task is not in flight. -/
  failed : ∀ call failure, ((perform call).run q).1 = .failed failure ↔
    ∃ id message, call.mark? = some (id, message) ∧ ¬ Holds (marks log) q id .inFlight ∧
      failure = .notInFlight id
  /-- A rejected call changes nothing. -/
  unchanged : ∀ call, ((perform call).run q).1.Rejected → ((perform call).run q).2 = q

section Refined

variable {limit : Nat} {log : List Entry} {q : Queue}

/-- A queue whose parts are determined by its log is as its history has it. -/
lemma Follows.refined (h : FollowsLog limit log q) (hdistinct : (ids (submitted log)).Nodup) :
    Refined limit log q where
  fifo := ⟨q.pending, h.queued⟩
  placed _ hid := h.existsUnique_place hdistinct hid
  absent _ _ hplace := h.mem_added_of_holds hdistinct hplace
  finished := h.finished ▸ latest_suffix limit (marks log)
  length_finished := h.finished ▸ length_latest limit (marks log)
  state _ _ := h.state_eq_iff hdistinct
  failureMessage _ _ := h.failureMessage_eq_iff
  refused call _ := (perform_does call q).refused_iff
  failed call _ := (perform_does call q).failed_iff
  unchanged call := (perform_does call q).unchanged

end Refined

/-- Whatever is called and in whichever order, the queue is as its history has it, as long as no id
is drawn twice; and every task moves only forward through its places. -/
theorem serve_refines {history : Int} {queue : Queue} (hcreate : create history = .ok queue)
    (calls more : List Call)
    (hdistinct : (ids (submitted ((serve (calls ++ more)).run queue).1)).Nodup) :
    let sooner := (serve calls).run queue
    let later := (serve (calls ++ more)).run queue
    sooner.1.map Entry.call = calls ∧ sooner.1 <+: later.1 ∧
      Refined history.toNat sooner.1 sooner.2 ∧
      ∀ id place place', Holds (marks sooner.1) sooner.2 id place →
        Holds (marks later.1) later.2 id place' → place.rank ≤ place'.rank := by
  intro sooner later
  have hqueue : queue = { history := history.toNat } := by
    unfold create at hcreate
    split at hcreate
    · cases hcreate
    · exact (Except.ok.inj hcreate).symm
  have hopening : FollowsLog history.toNat [] queue := hqueue ▸ .opening history.toNat
  have hlonger : sooner.1 <+: later.1 := by
    simp only [later, serve_append]
    exact List.prefix_append _ _
  have hsooner : (ids (submitted sooner.1)).Nodup :=
    hdistinct.sublist (List.Sublist.map _ (hlonger.sublist.filterMap _))
  have hfollows : FollowsLog history.toNat sooner.1 sooner.2 :=
    serve_follows calls hopening hsooner
  have hfollows' : FollowsLog history.toNat later.1 later.2 :=
    serve_follows (calls ++ more) hopening hdistinct
  refine ⟨map_call_serve calls queue, hlonger, hfollows.refined hsooner, ?_⟩
  intro id place place' hplace hplace'
  exact hfollows.rank_le hfollows' hdistinct (hlonger.sublist.filterMap _).subset
    (hlonger.filterMap _) hplace hplace'

/-- Two tasks are submitted and handed out, a blank text is refused, and both tasks are
acknowledged. -/
def rehearsal : List Call :=
  [.submit "a" "first", .submit "b" "second", .submit "c" " ", .fetch, .fetch, .fail "a" "broken",
    .complete "b"]

/-- A queue that remembers one finished task forgets the first of two, which is unknown from then on
and cannot be acknowledged again. -/
theorem rehearsal_forgets :
    create 1 = .ok { history := 1 } ∧
      (ids (submitted ((serve (rehearsal ++ [.complete "a"])).run { history := 1 }).1)).Nodup ∧
      let served := (serve rehearsal).run { history := 1 }
      Holds (marks served.1) served.2 "a" .forgotten ∧ served.2.state "a" = .unknown ∧
        Holds (marks served.1) served.2 "b" .remembered ∧ served.2.state "b" = .completed ∧
        ((perform (.complete "a")).run served.2).1 = .failed (.notInFlight "a") := by
  have hcreate : create 1 = .ok { history := 1 } := rfl
  have hdistinct : (ids (submitted
      ((serve (rehearsal ++ [.complete "a"])).run { history := 1 }).1)).Nodup := by decide +kernel
  obtain ⟨_, _, hrefined, _⟩ := serve_refines hcreate rehearsal [.complete "a"] hdistinct
  have hforgotten : Holds (marks ((serve rehearsal).run { history := 1 }).1)
      ((serve rehearsal).run { history := 1 }).2 "a" .forgotten := by
    unfold Holds
    decide +kernel
  have hremembered : Holds (marks ((serve rehearsal).run { history := 1 }).1)
      ((serve rehearsal).run { history := 1 }).2 "b" .remembered := by
    unfold Holds
    decide +kernel
  have hflying : ¬ Holds (marks ((serve rehearsal).run { history := 1 }).1)
      ((serve rehearsal).run { history := 1 }).2 "a" .inFlight := by
    unfold Holds
    decide +kernel
  refine ⟨hcreate, hdistinct, hforgotten, ?_, hremembered, ?_, ?_⟩
  · exact (hrefined.state "a" .unknown).mpr (.inl hforgotten)
  · exact (hrefined.state "b" .completed).mpr ⟨hremembered, by decide +kernel⟩
  · exact (hrefined.failed _ _).mpr ⟨"a", none, rfl, hflying, rfl⟩

end Teardown.Queue
