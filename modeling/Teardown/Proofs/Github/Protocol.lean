import Mathlib.Data.List.Forall2
import Mathlib.Data.List.TakeWhile
import Mathlib.Tactic.Lemma
import Teardown.Proofs.Github.Transcript

/-!
# The protocol of a start

A start takes a snapshot of the runs, dispatches one, and then lists the runs again until a fresh
one turns up or its attempts are used up.

`Transport.noted` is a transport that notes what it is asked for and changes nothing else.  What a
start does over it is described by the exchanges alone: `Account.script` says which acts they stand
for, and `Conversation` which exchanges follow which, and what comes of them.  `Yields` is the
means: it says what a start still does from a state on, and each of its lemmas is one move.  The
lookups are the only loop, and `yields_seek` is the induction on the attempts that are left.
-/

namespace Teardown

namespace Github

/-! ### What a transport is asked for -/

/-- What a start asks of a transport, with the exchange of a message. -/
inductive Act where
  | sent (message : Message) (exchange : Exchange)
  | paused (span : Seconds)

/-- A transport that also notes what it is asked for. -/
def Transport.noted {ρ : Type} (transport : Transport (StateM ρ)) :
    Transport (StateM (ρ × List Act)) where
  send message := fun (w, acts) =>
    let (exchange, w') := (transport.send message).run w
    (exchange, w', acts ++ [.sent message exchange])
  pause span := fun (w, acts) => ((), ((transport.pause span).run w).2, acts ++ [.paused span])
  write entry := fun (w, acts) => ((), ((transport.write entry).run w).2, acts)

section Noted

variable {ρ : Type} (transport : Transport (StateM ρ)) (a : Account)

/-- What is answered over a noted transport. -/
lemma answer_noted (q : Start.Question) (v : ρ × List Act) :
    ((Start.answer a transport.noted q).run v).1 = ((Start.answer a transport q).run v.1).1 ∧
      ((Start.answer a transport.noted q).run v).2.1 =
        ((Start.answer a transport q).run v.1).2 := by
  cases q with
  | pause span => exact ⟨rfl, rfl⟩
  | send request =>
    simp only [Start.answer, Account.exchange]
    cases a.message request with
    | error failure => exact ⟨rfl, rfl⟩
    | ok m => exact ⟨rfl, rfl⟩

/-- For a slug that is not blank, a start is a run of the procedure, whatever its surroundings
are. -/
lemma run_start {σ : Type} (transport : Transport (StateM σ)) {inst : Instance}
    (hslug : Text.strip inst.slug ≠ "") (v : σ) :
    let outcome := (Procedure.run (Start.answer a transport) transport.write
      (Start.next a (Text.strip inst.slug)) a.startHorizon Start.State.initial).run v
    (a.start transport inst).run v = (startResult a (Text.strip inst.slug) outcome.1, outcome.2) := by
  have hmap : ∀ (f : Option (Except Failure RunHandle) → Except Failure RunHandle) (x : StateM σ _),
      (f <$> x).run v = (f (x.run v).1, (x.run v).2) := fun _ _ => rfl
  rw [start_of_slug a transport hslug]
  exact hmap _ _

/-- Notes change nothing about a start. -/
lemma start_noted (inst : Instance) (w : ρ) (acts : List Act) :
    let noted := (a.start transport.noted inst).run (w, acts)
    (a.start transport inst).run w = (noted.1, noted.2.1) := by
  intro noted
  by_cases hslug : Text.strip inst.slug = ""
  · simp only [noted, Account.start, if_pos hslug]
    rfl
  · simp only [noted, run_start a _ hslug]
    obtain ⟨hresult, hstate⟩ := Procedure.run_view Prod.fst
      (Start.next a (Text.strip inst.slug)) (answer_noted transport a)
      (fun _ _ => rfl : ∀ e v, ((transport.noted.write e).run v).2.1 =
        ((transport.write e).run v.1).2)
      a.startHorizon Start.State.initial (w, acts)
    rw [hresult, hstate]

end Noted

/-! ### Conversations -/

section Conversation

variable (a : Account) (slug : String)

/-- The failure of a start whose attempts are used up. -/
def notFound : Failure :=
  .workflow ⟨.runNotFound a.workflow slug a.lookupAttempts, none⟩

/-- The failure of an exchange of a start. -/
inductive IsExchangeError (x : Exchange) : Failure → Prop where
  | overflow {failure : Failure} (deep : Overflows x failure) : IsExchangeError x failure
  | request (r : Request) (fault : Workflow.RequestFault) (unknown : r.run = none)
      (room : ∀ failure, ¬ Overflows x failure) : IsExchangeError x (r.failure fault)
  | runListMissing (room : ∀ failure, ¬ Overflows x failure) :
      IsExchangeError x (.workflow ⟨.runListMissing, none⟩)

/-- The exchanges of the lookups of a start, when a number of attempts is left. -/
inductive Lookups (known : List ListedRun) :
    Nat → List Exchange → Except Failure RunHandle → Prop where
  | exhausted : Lookups known 0 [] (.error (notFound a slug))
  | broken {left x failure} (unlisted : ∀ runs, ¬ Lists x runs) (error : IsExchangeError x failure) :
      Lookups known (left + 1) [x] (.error failure)
  | hit {left x runs run} (lists : Lists x runs) (first : FirstFresh known slug runs run) :
      Lookups known (left + 1) [x] (.ok ⟨run.id, run.url⟩)
  | miss {left x runs lookups result} (lists : Lists x runs)
      (stale : ∀ r ∈ runs, ¬ Fresh known slug r) (further : Lookups known left lookups result) :
      Lookups known (left + 1) (x :: lookups) result

/-- The exchanges of a start. -/
inductive Conversation : List Exchange → Except Failure RunHandle → Prop where
  | unlisted {x failure} (unlisted : ∀ runs, ¬ Lists x runs) (error : IsExchangeError x failure) :
      Conversation [x] (.error failure)
  | undispatched {x y known failure} (snapshot : Lists x known) (unusable : Unusable y)
      (error : IsExchangeError y failure) : Conversation [x, y] (.error failure)
  | sought {x y known lookups result} (snapshot : Lists x known) (dispatched : ¬ Unusable y)
      (further : Lookups a slug known a.lookupAttempts lookups result) :
      Conversation (x :: y :: lookups) result

/-- The pause before a lookup, if there is to be one. -/
def Account.pauses : List Act :=
  if a.lookupInterval.isPositive then [.paused a.lookupInterval] else []

/-- What a start asks of a transport to have the exchanges of its lookups. -/
def Account.lookups (listing : Message) (exchanges : List Exchange) : List Act :=
  exchanges.flatMap fun x => a.pauses ++ [.sent listing x]

lemma Account.lookups_cons (listing : Message) (x : Exchange) (xs : List Exchange) :
    a.lookups listing (x :: xs) = a.pauses ++ .sent listing x :: a.lookups listing xs := by
  rw [Account.lookups, List.flatMap_cons, List.append_assoc]
  rfl

/-- What a start asks of a transport to have its exchanges. -/
def Account.script (listing dispatch : Message) : List Exchange → List Act
  | [] => []
  | [x] => [.sent listing x]
  | x :: y :: exchanges => .sent listing x :: .sent dispatch y :: a.lookups listing exchanges

end Conversation

/-! ### Moves of a start -/

/-- The transport did nothing but answer or fail. -/
def Honest (acts : List Act) : Prop :=
  ∀ m x, .sent m x ∈ acts → Ordinary x

section Yields

variable {ρ : Type} {transport : Transport (StateM ρ)} {a : Account} {slug : String}
variable {horizon : Nat} {p : List Act → Except Failure RunHandle → Prop}

variable (transport a slug) in
/-- From a state on, a start ends within some moves; what it still asks of the transport and its
result have a property. -/
def Yields (horizon : Nat) (s : Start.State)
    (p : List Act → Except Failure RunHandle → Prop) : Prop :=
  ∀ w acts, ∃ more result w', p more result ∧
    (Procedure.run (Start.answer a transport.noted) transport.noted.write (Start.next a slug)
      horizon s).run (w, acts) = (some result, w', acts ++ more)

variable (transport) in
/-- Writing a log asks nothing. -/
lemma run_log (log : List Log.Entry) (w : ρ) (acts : List Act) :
    ∃ w', (log.forM transport.noted.write).run (w, acts) = ((), w', acts) := by
  induction log generalizing w with
  | nil => exact ⟨w, rfl⟩
  | cons e rest ih => exact ih ((transport.write e).run w).2

/-- A start that has ended asks nothing more. -/
lemma Yields.ended {log : List Log.Entry} {result : Except Failure RunHandle} (h : p [] result) :
    Yields transport a slug (horizon + 1) ⟨log, .ended result⟩ p := by
  intro w acts
  obtain ⟨w', hlog⟩ := run_log transport log w acts
  refine ⟨[], result, w', h, ?_⟩
  have hdone : Start.next a slug ⟨log, .ended result⟩ = .done log result := rfl
  rw [Procedure.run_done _ _ hdone, List.append_nil]
  exact congrArg (Prod.mk (some result)) (congrArg Prod.snd hlog)

/-- A start that asks goes on from the answer. -/
lemma Yields.ask {s : Start.State} {log : List Log.Entry} {q : Start.Question}
    {resume : Start.Answer q → Start.State} (hask : Start.next a slug s = .ask log q resume)
    (h : ∀ w acts, ∃ x w' asked,
      (Start.answer a transport.noted q).run (w, acts) = (x, w', acts ++ asked) ∧
      Yields transport a slug horizon (resume x) fun more => p (asked ++ more)) :
    Yields transport a slug (horizon + 1) s p := by
  intro w acts
  obtain ⟨w', hlog⟩ := run_log transport log w acts
  obtain ⟨x, w'', asked, hanswer, hrest⟩ := h w' acts
  obtain ⟨more, result, final, hp, hrun⟩ := hrest w'' (acts ++ asked)
  refine ⟨asked ++ more, result, final, hp, ?_⟩
  -- The log moves the surroundings from `w` to `w'`, and the question from there to `w''`.
  have hbind : ∀ f : Start.Answer q → StateM (ρ × List Act) (Option (Except Failure RunHandle)),
      (do log.forM transport.noted.write; f (← Start.answer a transport.noted q) :
        StateM (ρ × List Act) _).run (w, acts) = (f x).run (w'', acts ++ asked) := by
    intro f
    have hx : (Start.answer a transport.noted q).run
        ((log.forM transport.noted.write).run (w, acts)).2 = (x, w'', acts ++ asked) := by
      rw [hlog]
      exact hanswer
    exact congrArg (fun y => (f y.1).run y.2) hx
  rw [← List.append_assoc, ← hrun, Procedure.run, hask]
  exact hbind _

/-- A start that sends a message goes on from the exchange. -/
lemma Yields.send {s : Start.State} {log : List Log.Entry} {request : Request} {m : Message}
    {resume : Exchange → Start.State}
    (hask : Start.next a slug s = .ask log (.send request) resume)
    (hm : a.message request = .ok m)
    (h : ∀ x, Yields transport a slug horizon (resume x) fun more => p (.sent m x :: more)) :
    Yields transport a slug (horizon + 1) s p := by
  refine Yields.ask hask fun w acts => ?_
  refine ⟨((transport.send m).run w).1, ((transport.send m).run w).2, [.sent m _], ?_, h _⟩
  simp only [Start.answer, Account.exchange, hm]
  rfl

/-- A start whose message has no address goes on from this failure. -/
lemma Yields.unsent {s : Start.State} {log : List Log.Entry} {request : Request}
    {failure : Failure} {resume : Exchange → Start.State}
    (hask : Start.next a slug s = .ask log (.send request) resume)
    (hfailure : a.message request = .error failure)
    (h : Yields transport a slug horizon (resume (.error (.raw failure))) p) :
    Yields transport a slug (horizon + 1) s p := by
  refine Yields.ask hask fun w acts => ⟨.error (.raw failure), w, [], ?_, h⟩
  simp only [Start.answer, Account.exchange, hfailure, List.append_nil]
  rfl

/-- A start that pauses goes on after the pause. -/
lemma Yields.pause {s : Start.State} {log : List Log.Entry} {span : Seconds}
    {resume : Unit → Start.State} (hask : Start.next a slug s = .ask log (.pause span) resume)
    (h : Yields transport a slug horizon (resume ()) fun more => p (.paused span :: more)) :
    Yields transport a slug (horizon + 1) s p :=
  Yields.ask hask fun w _ => ⟨(), ((transport.pause span).run w).2, [.paused span], rfl, h⟩

/-- A start asks for what it yields from its first state on, and comes to the same result. -/
lemma Yields.start {inst : Instance} (hslug : Text.strip inst.slug ≠ "")
    (h : Yields transport a (Text.strip inst.slug) a.startHorizon Start.State.initial p) (w : ρ) :
    let noted := (a.start transport.noted inst).run (w, [])
    p noted.2.2 noted.1 := by
  obtain ⟨more, result, w', hp, hrun⟩ := h w []
  simp only [run_start a _ hslug, hrun]
  exact hp

/-- A weaker property. -/
lemma Yields.imp {s : Start.State} {p' : List Act → Except Failure RunHandle → Prop}
    (h : Yields transport a slug horizon s p) (himp : ∀ more result, p more result → p' more result) :
    Yields transport a slug horizon s p' := by
  intro w acts
  obtain ⟨more, result, w', hp, hrun⟩ := h w acts
  exact ⟨more, result, w', himp more result hp, hrun⟩

end Yields

/-! ### The course of a start -/

/-- A list that is not read is no list of runs. -/
lemma runsOf_error {a : Account} {x : Exchange} {failure : Failure}
    (h : a.runsOf x = .error failure) (hordinary : Ordinary x) :
    (∀ runs, ¬ Lists x runs) ∧ IsExchangeError x failure := by
  constructor
  · intro runs hlists
    rw [hlists.runsOf] at h
    cases h
  · unfold Account.runsOf at h
    cases hpayload : a.listing.payload x with
    | error failure' =>
      obtain ⟨-, hreason⟩ := Request.payload_error hpayload hordinary
      rw [hpayload] at h
      obtain rfl : failure' = failure := Except.error.inj h
      rcases hreason with deep | ⟨room, fault, rfl⟩
      · exact .overflow deep
      · exact .request _ fault rfl room
    | ok payload =>
      have room : ∀ failure, ¬ Overflows x failure := fun _ deep =>
        Request.usable_of_payload hpayload (.overflowing deep)
      rw [hpayload] at h
      simp only [Except.bind, listedRuns] at h
      split at h
      · cases h
      · cases h
        exact .runListMissing room

section Course

variable {ρ : Type} {transport : Transport (StateM ρ)} {a : Account} {slug : String}

/-- A start that looks for its run goes on as its lookups say. -/
lemma yields_seek {listing : Message} (hlisting : a.message a.listing = .ok listing)
    (known : List ListedRun) (left : Nat) {attempt : Nat}
    (hattempt : attempt + left = a.lookupAttempts) (spare : Nat) (log : List Log.Entry) :
    Yields transport a slug (2 * left + spare + 1)
      (Start.seek a slug (known.map (·.id.value)) attempt log) fun more result =>
        Honest more → ∃ xs, more = a.lookups listing xs ∧ Lookups a slug known left xs result := by
  -- For each attempt that is left there are two moves, of which a start without pauses needs one.
  induction left generalizing attempt spare log with
  | zero =>
    have hover : ¬ attempt < a.lookupAttempts := by omega
    unfold Start.seek
    rw [if_neg hover]
    exact Yields.ended fun _ => ⟨[], rfl, .exhausted⟩
  | succ left ih =>
    have hleft : attempt < a.lookupAttempts := by omega
    -- The lookup itself is the same with a pause before it and without one.
    have hlook : ∀ spare log, Yields transport a slug (2 * left + spare + 1 + 1)
        ⟨log, .looking (known.map (·.id.value)) attempt⟩ fun more result =>
          Honest (a.pauses ++ more) → ∃ xs, a.pauses ++ more = a.lookups listing xs ∧
            Lookups a slug known (left + 1) xs result := by
      intro spare log
      refine Yields.send rfl hlisting fun x => ?_
      have hordinary : ∀ {more : List Act}, Honest (a.pauses ++ .sent listing x :: more) →
          Ordinary x := fun honest => honest _ _ (List.mem_append_right _ List.mem_cons_self)
      have hlast : a.pauses ++ [.sent listing x] = a.lookups listing [x] :=
        (List.append_nil _).symm
      split
      · rename_i failure hfailure
        refine Yields.ended fun honest => ⟨[x], hlast, ?_⟩
        obtain ⟨unlisted, error⟩ := runsOf_error hfailure (hordinary honest)
        exact .broken unlisted error
      · rename_i runs hruns
        have hlists := Account.runsOf_ok hruns
        split
        · rename_i run hfound
          have hfirst := firstFresh_iff.mpr hfound
          exact Yields.ended fun _ => ⟨[x], hlast, .hit hlists hfirst⟩
        · rename_i hnone
          refine (ih (by omega) spare []).imp fun more result hmore honest => ?_
          obtain ⟨xs, rfl, further⟩ := hmore fun m y hy =>
            honest m y (List.mem_append_right _ (List.mem_cons_of_mem _ hy))
          exact ⟨x :: xs, (a.lookups_cons listing x xs).symm,
            .miss hlists (stale_iff.mpr hnone) further⟩
    unfold Start.seek
    rw [if_pos hleft]
    split
    · rename_i hpositive
      have hpauses : a.pauses = [.paused a.lookupInterval] := if_pos hpositive
      rw [hpauses] at hlook
      have hhorizon : 2 * (left + 1) + spare + 1 = 2 * left + spare + 1 + 1 + 1 := by omega
      rw [hhorizon]
      exact Yields.pause rfl (hlook spare [])
    · rename_i hpositive
      have hpauses : a.pauses = [] := if_neg hpositive
      rw [hpauses] at hlook
      have hhorizon : 2 * (left + 1) + spare + 1 = 2 * left + (spare + 1) + 1 + 1 := by omega
      rw [hhorizon]
      exact hlook (spare + 1) log

/-- A start whose requests have no address asks for nothing. -/
lemma yields_unsent {failure : Failure} (hfailure : a.message a.listing = .error failure) :
    Yields transport a slug a.startHorizon Start.State.initial fun acts result =>
      acts = [] ∧ result = .error failure := by
  unfold Account.startHorizon
  exact Yields.unsent rfl hfailure (Yields.ended ⟨rfl, rfl⟩)

/-- A start goes on as its conversation says. -/
lemma yields_initial {listing dispatch : Message} (hlisting : a.message a.listing = .ok listing)
    (hdispatch : a.message (a.dispatch slug) = .ok dispatch) :
    Yields transport a slug a.startHorizon Start.State.initial fun acts result =>
      Honest acts → ∃ xs, acts = a.script listing dispatch xs ∧ Conversation a slug xs result := by
  unfold Account.startHorizon
  refine Yields.send rfl hlisting fun x => ?_
  have hx : ∀ {more : List Act}, Honest (.sent listing x :: more) → Ordinary x :=
    fun honest => honest _ _ List.mem_cons_self
  split
  · rename_i failure hfailure
    refine Yields.ended fun honest => ⟨[x], rfl, ?_⟩
    obtain ⟨unlisted, error⟩ := runsOf_error hfailure (hx honest)
    exact .unlisted unlisted error
  · rename_i known hknown
    have hsnapshot := Account.runsOf_ok hknown
    refine Yields.send rfl hdispatch fun y => ?_
    split
    · rename_i failure hfailure
      refine Yields.ended fun honest => ⟨[x, y], rfl, ?_⟩
      obtain ⟨unusable, hreason⟩ := Request.payload_error hfailure
        (honest dispatch y (List.mem_cons_of_mem _ List.mem_cons_self))
      refine .undispatched hsnapshot unusable ?_
      rcases hreason with deep | ⟨room, fault, rfl⟩
      · exact .overflow deep
      · exact .request _ fault rfl room
    · rename_i payload hpayload
      refine (yields_seek hlisting known a.lookupAttempts (Nat.zero_add _) 1 _).imp
        fun more result hmore honest => ?_
      obtain ⟨xs, rfl, further⟩ := hmore fun m z hz =>
        honest m z (List.mem_cons_of_mem _ (List.mem_cons_of_mem _ hz))
      have husable := Request.usable_of_payload hpayload
      exact ⟨x :: y :: xs, rfl, .sought hsnapshot husable further⟩

end Course

/-! ### What follows from a conversation -/

/-- The message of an act that sends one. -/
def Act.message? : Act → Option Message
  | .sent message _ => some message
  | .paused _ => none

/-- The length of an act that pauses. -/
def Act.span? : Act → Option Seconds
  | .sent _ _ => none
  | .paused span => some span

/-- The exchange with a number fails the start that has had it: the dispatch, if there is no usable
answer, and any other if there is no list of runs. -/
def Breaks (k : Nat) (x : Exchange) : Prop :=
  if k = 1 then Unusable x else ∀ runs, ¬ Lists x runs

/-- What a start fails with when an exchange breaks it: with the failure of the reader, if the body is
nested too deeply, and with a failed call in all other cases. -/
def FailsWith (x : Exchange) (failure : Failure) : Prop :=
  Overflows x failure ∨ (∀ other, ¬ Overflows x other) ∧ IsCallError failure none

/-- Exchanges in which nothing fails: a snapshot, an accepted dispatch, and lookups that have listed
some runs, in this order. -/
inductive Searched : List Exchange → List ListedRun → List ListedRun → Prop where
  | intro {x y known lookups lists} (snapshot : Lists x known) (dispatched : ¬ Unusable y)
      (listed : List.Forall₂ Lists lookups lists) : Searched (x :: y :: lookups) known lists.flatten

section Consequences

variable {a : Account} {slug : String} {known : List ListedRun} {left : Nat}
variable {xs : List Exchange} {result : Except Failure RunHandle}

/-- The failure of an exchange is that of its reader, if it overflows, and else that of a call. -/
lemma IsExchangeError.fails {x : Exchange} {failure : Failure} (h : IsExchangeError x failure) :
    FailsWith x failure := by
  cases h with
  | overflow deep => exact .inl deep
  | request r fault unknown room => exact .inr ⟨room, unknown ▸ Request.isCallError r fault⟩
  | runListMissing room => exact .inr ⟨room, _, rfl, rfl⟩

/-- The failure of an exchange does not say that no run was found. -/
lemma IsExchangeError.ne_notFound {x : Exchange} {failure : Failure}
    (h : IsExchangeError x failure) : failure ≠ notFound a slug := by
  rintro rfl
  cases h with
  | overflow deep => cases deep

/-- There is one lookup for each attempt at most. -/
lemma Lookups.length_le (h : Lookups a slug known left xs result) : xs.length ≤ left := by
  induction h with
  | exhausted => exact Nat.le_refl 0
  | broken | hit => exact Nat.succ_le_succ (Nat.zero_le _)
  | miss _ _ _ ih => exact Nat.succ_le_succ ih

/-- A lookup that fails is the last one. -/
lemma Lookups.last_of_breaks (h : Lookups a slug known left xs result) {k : Nat} {x : Exchange}
    (hx : xs[k]? = some x) (hbreaks : ∀ runs, ¬ Lists x runs) :
    k + 1 = xs.length ∧ ∃ failure, result = .error failure ∧ FailsWith x failure := by
  induction h generalizing k with
  | exhausted => cases hx
  | broken _ error =>
    cases k with
    | zero => exact ⟨rfl, _, rfl, Option.some.inj hx ▸ error.fails⟩
    | succ k => cases hx
  | hit lists _ =>
    cases k with
    | zero => exact absurd (Option.some.inj hx ▸ lists) (hbreaks _)
    | succ k => cases hx
  | miss lists _ _ ih =>
    cases k with
    | zero => exact absurd (Option.some.inj hx ▸ lists) (hbreaks _)
    | succ k =>
      obtain ⟨hlast, herror⟩ := ih hx
      exact ⟨congrArg (· + 1) hlast, herror⟩

/-- Lookups find a run if all of them list runs, and it is the first fresh one. -/
lemma Lookups.found_iff (h : Lookups a slug known left xs result) {handle : RunHandle} :
    result = .ok handle ↔ ∃ lists run, List.Forall₂ Lists xs lists ∧
      FirstFresh known slug lists.flatten run ∧ handle = ⟨run.id, run.url⟩ := by
  simp only [firstFresh_iff]
  induction h with
  | exhausted =>
    refine ⟨nofun, ?_⟩
    rintro ⟨_, run, hnil, hfound, _⟩
    rw [List.forall₂_nil_left_iff.mp hnil] at hfound
    cases hfound
  | broken unlisted _ =>
    refine ⟨nofun, ?_⟩
    rintro ⟨_, run, hcons, _, _⟩
    obtain ⟨runs, _, hlists, _⟩ := List.forall₂_cons_left_iff.mp hcons
    exact absurd hlists (unlisted runs)
  | @hit left x runs run lists first =>
    have hfound := firstFresh_iff.mp first
    constructor
    · rintro ⟨⟩
      refine ⟨[runs], run, .cons lists .nil, ?_, rfl⟩
      rw [List.flatten_singleton]
      exact hfound
    · rintro ⟨_, other, hcons, hother, rfl⟩
      obtain ⟨_, _, hlists, hnil, rfl⟩ := List.forall₂_cons_left_iff.mp hcons
      rw [List.forall₂_nil_left_iff.mp hnil, lists.unique hlists, List.flatten_singleton,
        hfound] at hother
      rw [Option.some.inj hother]
  | @miss left x runs lookups result lists stale further ih =>
    have happend : ∀ rest : List ListedRun, Start.found? slug (known.map (·.id.value))
        (runs ++ rest) = Start.found? slug (known.map (·.id.value)) rest := by
      intro rest
      have hnone := stale_iff.mp stale
      unfold Start.found? at hnone ⊢
      rw [List.find?_append, hnone, Option.none_or]
    rw [ih]
    constructor
    · rintro ⟨rest, run, hrest, hfound, hhandle⟩
      refine ⟨runs :: rest, run, .cons lists hrest, ?_, hhandle⟩
      rw [List.flatten_cons, happend]
      exact hfound
    · rintro ⟨_, run, hcons, hfound, hhandle⟩
      obtain ⟨_, rest, hlists, hrest, rfl⟩ := List.forall₂_cons_left_iff.mp hcons
      rw [lists.unique hlists, List.flatten_cons, happend] at hfound
      exact ⟨rest, run, hrest, hfound, hhandle⟩

/-- Lookups end without a run if all attempts are made, all list runs, and none of these is fresh. -/
lemma Lookups.notFound_iff (h : Lookups a slug known left xs result) :
    result = .error (notFound a slug) ↔ xs.length = left ∧ ∃ lists, List.Forall₂ Lists xs lists ∧
      ∀ run ∈ lists.flatten, ¬ Fresh known slug run := by
  induction h with
  | exhausted => exact ⟨fun _ => ⟨rfl, [], .nil, fun _ hrun => nomatch hrun⟩, fun _ => rfl⟩
  | broken unlisted error =>
    refine ⟨fun hresult => absurd (Except.error.inj hresult) error.ne_notFound, ?_⟩
    rintro ⟨_, _, hcons, _⟩
    obtain ⟨runs, _, hlists, _⟩ := List.forall₂_cons_left_iff.mp hcons
    exact absurd hlists (unlisted runs)
  | hit lists first =>
    refine ⟨nofun, ?_⟩
    rintro ⟨_, _, hcons, hstale⟩
    obtain ⟨_, _, hlists, _, rfl⟩ := List.forall₂_cons_left_iff.mp hcons
    obtain ⟨earlier, later, rfl, fresh, _⟩ := first
    rw [lists.unique hlists, List.flatten_cons] at hstale
    exact absurd fresh
      (hstale _ (List.mem_append_left _ (List.mem_append_right _ List.mem_cons_self)))
  | miss lists stale further ih =>
    rw [ih]
    constructor
    · rintro ⟨hlength, rest, hrest, hnone⟩
      refine ⟨congrArg (· + 1) hlength, _, .cons lists hrest, ?_⟩
      rw [List.flatten_cons]
      exact List.forall_mem_append.mpr ⟨stale, hnone⟩
    · rintro ⟨hlength, _, hcons, hnone⟩
      obtain ⟨_, rest, _, hrest, rfl⟩ := List.forall₂_cons_left_iff.mp hcons
      rw [List.flatten_cons] at hnone
      exact ⟨Nat.succ.inj hlength, rest, hrest, (List.forall_mem_append.mp hnone).2⟩

/-- A further lookup is made only while no run that was listed is fresh. -/
lemma Lookups.stale_of_further (h : Lookups a slug known left xs result)
    {before after : List Exchange} {x : Exchange} (hxs : xs = before ++ x :: after)
    {lists : List (List ListedRun)} (hbefore : List.Forall₂ Lists before lists) :
    ∀ run ∈ lists.flatten, ¬ Fresh known slug run := by
  induction h generalizing before lists with
  | exhausted => cases List.append_ne_nil_of_right_ne_nil _ (List.cons_ne_nil _ _) hxs.symm
  | broken | hit =>
    obtain ⟨rfl, _⟩ | ⟨_, hnil⟩ := List.append_eq_singleton_iff.mp hxs.symm
    · rw [List.forall₂_nil_left_iff.mp hbefore]
      exact fun _ hrun => nomatch hrun
    · cases hnil
  | miss listed stale further ih =>
    cases before with
    | nil =>
      rw [List.forall₂_nil_left_iff.mp hbefore]
      exact fun _ hrun => nomatch hrun
    | cons b before =>
      obtain ⟨rfl, hrest⟩ := List.cons_eq_cons.mp hxs
      obtain ⟨runs, lists, hlists, hlater, rfl⟩ := List.forall₂_cons_left_iff.mp hbefore
      rw [listed.unique hlists, List.flatten_cons]
      exact List.forall_mem_append.mpr ⟨stale, ih hrest hlater⟩

/-- The messages of lookups. -/
lemma lookups_messages (a : Account) (listing : Message) (xs : List Exchange) :
    (a.lookups listing xs).filterMap Act.message? = List.replicate xs.length listing := by
  induction xs with
  | nil => rfl
  | cons x xs ih =>
    have hpauses : a.pauses.filterMap Act.message? = [] := by
      unfold Account.pauses
      split
      · rfl
      · rfl
    have hsent : Act.message? (.sent listing x) = some listing := rfl
    rw [a.lookups_cons, List.filterMap_append, hpauses, List.filterMap_cons_some hsent, ih]
    rfl

/-- The pauses of lookups. -/
lemma lookups_spans (a : Account) (listing : Message) (xs : List Exchange) :
    (a.lookups listing xs).filterMap Act.span? =
      List.replicate (if a.lookupInterval.isPositive then xs.length else 0) a.lookupInterval := by
  induction xs with
  | nil => simp [Account.lookups]
  | cons x xs ih =>
    rw [a.lookups_cons, List.filterMap_append, List.filterMap_cons_none rfl, ih]
    unfold Account.pauses
    split
    · rfl
    · rfl

/-- What is sent: the snapshot, the dispatch and the lookups, as many as there are exchanges. -/
lemma script_messages (a : Account) (listing dispatch : Message) {xs : List Exchange}
    (hlength : xs.length ≤ a.lookupAttempts + 2) :
    (a.script listing dispatch xs).filterMap Act.message? =
      (listing :: dispatch :: List.replicate a.lookupAttempts listing).take xs.length := by
  match xs with
  | [] | [_] => rfl
  | x :: y :: xs =>
    have hleft : xs.length ≤ a.lookupAttempts := Nat.le_of_add_le_add_right (b := 2) hlength
    simp only [Account.script, List.filterMap_cons, Act.message?, lookups_messages,
      List.length_cons, List.take_succ_cons, List.take_replicate, Nat.min_eq_left hleft]

lemma Conversation.length_le (h : Conversation a slug xs result) :
    xs.length ≤ a.lookupAttempts + 2 := by
  cases h with
  | unlisted | undispatched => simp
  | sought _ _ further => exact Nat.add_le_add_right further.length_le 2

/-- An exchange that fails is the last one. -/
lemma Conversation.last_of_breaks (h : Conversation a slug xs result) {k : Nat} {x : Exchange}
    (hx : xs[k]? = some x) (hbreaks : Breaks k x) :
    k + 1 = xs.length ∧ ∃ failure, result = .error failure ∧ FailsWith x failure := by
  unfold Breaks at hbreaks
  cases h with
  | unlisted _ error =>
    match k with
    | 0 => exact ⟨rfl, _, rfl, Option.some.inj hx ▸ error.fails⟩
    | k + 1 => cases hx
  | undispatched snapshot _ error =>
    match k with
    | 0 => exact absurd (Option.some.inj hx ▸ snapshot) (hbreaks _)
    | 1 => exact ⟨rfl, _, rfl, Option.some.inj hx ▸ error.fails⟩
    | k + 2 => cases hx
  | sought snapshot dispatched further =>
    match k with
    | 0 => exact absurd (Option.some.inj hx ▸ snapshot) (hbreaks _)
    | 1 => exact absurd (Option.some.inj hx ▸ hbreaks) dispatched
    | k + 2 =>
      obtain ⟨hlast, herror⟩ := further.last_of_breaks hx hbreaks
      exact ⟨congrArg (· + 2) hlast, herror⟩

/-- Nothing is dispatched without a snapshot. -/
lemma Conversation.exists_snapshot (h : Conversation a slug xs result) (hlength : 1 < xs.length) :
    ∃ x known, xs.head? = some x ∧ Lists x known := by
  cases h with
  | unlisted => exact absurd hlength (Nat.lt_irrefl 1)
  | undispatched snapshot _ _ | sought snapshot _ _ => exact ⟨_, _, rfl, snapshot⟩

/-- A further lookup is made only while no run that was listed is fresh. -/
lemma Conversation.stale_of_further (h : Conversation a slug xs result)
    {before after : List Exchange} {x : Exchange} (hxs : xs = before ++ x :: after)
    {listed : List ListedRun} (hbefore : Searched before known listed) :
    ∀ run ∈ listed, ¬ Fresh known slug run := by
  obtain ⟨snapshot, _, listed⟩ := hbefore
  cases h with
  | unlisted | undispatched => simp at hxs
  | sought snapshot' _ further =>
    obtain ⟨rfl, rfl, hlookups⟩ : _ ∧ _ ∧ _ := by simpa using hxs
    rw [snapshot'.unique snapshot]
    exact further.stale_of_further hlookups listed

/-- The result is the first fresh run, in the order of the lookups and then of their lists. -/
lemma Conversation.found_iff (h : Conversation a slug xs result) {handle : RunHandle} :
    result = .ok handle ↔ ∃ known listed run, Searched xs known listed ∧
      FirstFresh known slug listed run ∧ handle = ⟨run.id, run.url⟩ := by
  cases h with
  | unlisted =>
    refine ⟨nofun, ?_⟩
    rintro ⟨_, _, _, ⟨⟩, _, _⟩
  | undispatched _ unusable _ =>
    refine ⟨nofun, ?_⟩
    rintro ⟨_, _, _, ⟨_, dispatched, _⟩, _, _⟩
    exact absurd unusable dispatched
  | sought snapshot dispatched further =>
    rw [further.found_iff]
    constructor
    · rintro ⟨lists, run, hlists, hfirst, hhandle⟩
      exact ⟨_, _, run, .intro snapshot dispatched hlists, hfirst, hhandle⟩
    · rintro ⟨_, _, run, ⟨snapshot', _, hlists⟩, hfirst, hhandle⟩
      rw [snapshot.unique snapshot'] at hfirst
      exact ⟨_, run, hlists, hfirst, hhandle⟩

/-- The start gives up when all of its lookups have listed runs, and none of these is fresh. -/
lemma Conversation.notFound_iff (h : Conversation a slug xs result) :
    result = .error (notFound a slug) ↔ xs.length = a.lookupAttempts + 2 ∧
      ∃ known listed, Searched xs known listed ∧ ∀ run ∈ listed, ¬ Fresh known slug run := by
  cases h with
  | unlisted _ error =>
    refine ⟨fun hresult => absurd (Except.error.inj hresult) error.ne_notFound, ?_⟩
    rintro ⟨_, _, _, ⟨⟩, _⟩
  | undispatched _ unusable error =>
    refine ⟨fun hresult => absurd (Except.error.inj hresult) error.ne_notFound, ?_⟩
    rintro ⟨_, _, _, ⟨_, dispatched, _⟩, _⟩
    exact absurd unusable dispatched
  | sought snapshot dispatched further =>
    rw [further.notFound_iff]
    constructor
    · rintro ⟨hlength, lists, hlists, hstale⟩
      exact ⟨congrArg (· + 2) hlength, _, _, .intro snapshot dispatched hlists, hstale⟩
    · rintro ⟨hlength, _, _, ⟨snapshot', _, hlists⟩, hstale⟩
      rw [snapshot.unique snapshot'] at hstale
      exact ⟨Nat.succ.inj (Nat.succ.inj hlength), _, hlists, hstale⟩

end Consequences

/-! ### Addresses -/

/-- The characters that are no control characters. -/
def isPrintable (c : Char) : Bool :=
  !(decide (c.toNat < 0x20) || c.toNat == 0x7F)

/-- Addresses are formed of paths without control characters. -/
lemma checkPrintable_eq_ok_iff {s : String} :
    checkPrintable s = .ok () ↔ s.toList.all isPrintable = true := by
  rw [List.all_eq_true, ← List.dropWhile_eq_nil_iff]
  unfold checkPrintable
  dsimp only
  split
  · rename_i hprintable
    exact ⟨fun _ => hprintable, fun _ => rfl⟩
  · rename_i hcontrol
    constructor
    · intro hok
      cases hok
    · intro hprintable
      cases hcontrol.symm.trans hprintable

/-- A request is sent if its path has no control characters. -/
lemma message_ok_iff {a : Account} {r : Request} :
    (∃ m, a.message r = .ok m) ↔ r.path.toList.all isPrintable = true := by
  rw [← checkPrintable_eq_ok_iff]
  unfold Account.message Address.target
  cases checkPrintable r.path with
  | error failure => exact ⟨nofun, nofun⟩
  | ok => exact ⟨fun _ => rfl, fun _ => ⟨_, rfl⟩⟩

/-- If the runs can be listed, then a run can be dispatched. -/
lemma exists_dispatch {a : Account} {listing : Message} (h : a.message a.listing = .ok listing)
    (slug : String) : ∃ dispatch, a.message (a.dispatch slug) = .ok dispatch := by
  have hprintable := message_ok_iff.mp ⟨listing, h⟩
  simp only [Account.listing, String.toList_append, List.all_append, Bool.and_eq_true]
    at hprintable
  have hend : "/dispatches".toList.all isPrintable = true := by decide
  rw [message_ok_iff, Account.dispatch, String.toList_append, List.all_append, hend, Bool.and_true]
  exact hprintable.1

/-! ### The theorem -/

/-- A start keeps to its protocol: it has some exchanges, and comes to a result. -/
structure KeepsProtocol (a : Account) (slug : String) (listing dispatch : Message)
    (xs : List Exchange) (acts : List Act) (result : Except Failure RunHandle) : Prop where
  conversation : Conversation a slug xs result
  /-- Nothing is asked for but the exchanges and a pause before each lookup. -/
  script : acts = a.script listing dispatch xs
  /-- The messages are the first ones of a snapshot, a dispatch and a lookup for each attempt. -/
  sends : acts.filterMap Act.message? <+:
    listing :: dispatch :: List.replicate a.lookupAttempts listing
  dispatches_once : (acts.filterMap Act.message?).countP (·.method = "POST") ≤ 1
  /-- Nothing is dispatched without a snapshot. -/
  dispatches_later : (∃ m ∈ acts.filterMap Act.message?, m.method = "POST") →
    ∃ x known, xs.head? = some x ∧ Lists x known
  pauses : acts.filterMap Act.span? =
    List.replicate (if a.lookupInterval.isPositive then xs.length - 2 else 0) a.lookupInterval
  /-- The first exchange that fails is the last one, and the start fails. -/
  stops : ∀ k x, xs[k]? = some x → Breaks k x →
    k + 1 = xs.length ∧ ∃ failure, result = .error failure ∧ FailsWith x failure
  /-- A further lookup is made only while no run that was listed is fresh. -/
  continues : ∀ before x after known listed, xs = before ++ x :: after →
    Searched before known listed → ∀ run ∈ listed, ¬ Fresh known slug run
  /-- The result is the first fresh run, in the order of the lookups and then of their lists. -/
  found_iff : ∀ handle, result = .ok handle ↔ ∃ known listed run, Searched xs known listed ∧
    FirstFresh known slug listed run ∧ handle = ⟨run.id, run.url⟩
  /-- The start gives up when all of its lookups have listed runs, and none of these is fresh. -/
  notFound_iff : result = .error (notFound a slug) ↔ xs.length = a.lookupAttempts + 2 ∧
    ∃ known listed, Searched xs known listed ∧ ∀ run ∈ listed, ¬ Fresh known slug run

/-- A start that has a conversation keeps to its protocol. -/
lemma Conversation.keepsProtocol {a : Account} {slug : String} {listing dispatch : Message}
    {xs : List Exchange} {result : Except Failure RunHandle} (h : Conversation a slug xs result)
    (hlisting : listing.method = "GET") (hdispatch : dispatch.method = "POST") :
    KeepsProtocol a slug listing dispatch xs (a.script listing dispatch xs) result where
  conversation := h
  script := rfl
  sends := by
    rw [script_messages a listing dispatch h.length_le]
    exact List.take_prefix ..
  dispatches_once := by
    rw [script_messages a listing dispatch h.length_le]
    refine Nat.le_trans (List.take_sublist ..).countP_le ?_
    simp [hlisting, hdispatch, List.countP_replicate]
  dispatches_later := by
    rintro ⟨m, hm, hpost⟩
    match xs with
    | [] => cases hm
    | [x] =>
      rw [List.mem_singleton.mp hm, hlisting] at hpost
      exact absurd hpost (by decide)
    | x :: y :: xs => exact h.exists_snapshot (Nat.le_add_left 2 xs.length)
  pauses := by
    match xs with
    | [] | [_] => simp [Account.script, Act.span?]
    | x :: y :: xs => exact lookups_spans a listing xs
  stops _ _ := h.last_of_breaks
  continues _ _ _ _ _ hxs := h.stale_of_further hxs
  found_iff _ := h.found_iff
  notFound_iff := h.notFound_iff

/-- Whatever a transport answers, every start keeps to its protocol over it.  A start for a blank
slug asks for nothing; neither does one whose requests have no address, and it fails with the reason
for that. -/
theorem start_keepsProtocol {ρ : Type} (a : Account) (transport : Transport (StateM ρ))
    (inst : Instance) (w : ρ) :
    let slug := Text.strip inst.slug
    let noted := (a.start transport.noted inst).run (w, [])
    let acts := noted.2.2
    (a.start transport inst).run w = (noted.1, noted.2.1) ∧
    (slug = "" → acts = [] ∧ ∃ failure, noted.1 = .error failure ∧ IsCallError failure none) ∧
    (slug ≠ "" → ∀ failure, a.message a.listing = .error failure →
      acts = [] ∧ noted.1 = .error failure) ∧
    (slug ≠ "" → ∀ listing, a.message a.listing = .ok listing →
      ∃ dispatch, listing.AsksRuns a ∧ dispatch.AsksDispatch a slug ∧
        (Honest acts → ∃ xs, KeepsProtocol a slug listing dispatch xs acts noted.1)) := by
  intro slug noted acts
  refine ⟨start_noted transport a inst w [], fun hslug => ?_, fun hslug failure hfailure => ?_,
    fun hslug listing hlisting => ?_⟩
  · have hnoted : noted = (.error (.workflow ⟨.blankSlug, none⟩), w, []) := by
      simp only [noted, Account.start]
      rw [if_pos hslug]
      rfl
    exact ⟨congrArg (·.2.2) hnoted, _, congrArg Prod.fst hnoted, _, rfl, rfl⟩
  · exact (yields_unsent hfailure).start hslug w
  · obtain ⟨dispatch, hdispatch⟩ := exists_dispatch hlisting slug
    have hlistingAsks := Account.message_asks hlisting
    have hdispatchAsks := Account.message_asks hdispatch
    refine ⟨dispatch, hlistingAsks, hdispatchAsks, fun honest => ?_⟩
    obtain ⟨xs, (hacts : acts = a.script listing dispatch xs), hconversation⟩ :=
      (yields_initial hlisting hdispatch).start hslug w honest
    rw [hacts]
    exact ⟨xs, hconversation.keepsProtocol hlistingAsks.method hdispatchAsks.method⟩

/-- An account that pauses before each of two lookups. -/
def patient : Account :=
  { hasty with lookupAttempts := 2, lookupInterval := .whole 1 }

/-- No runs, an accepted dispatch, still no runs, and one run for the instance. -/
def lateAnswers : List Exchange :=
  let empty := answered (.obj [("workflow_runs", .arr [])])
  [empty, noContent, empty, answered (.obj [("workflow_runs",
    .arr [.obj [("id", .int 7), ("display_title", .str "stop demo")]])])]

/-- The instance that is torn down. -/
def lateInstance : Instance :=
  ⟨1, "demo", ⟨2020, 1, 2, 3, 4, 5, 0, none⟩⟩

/-- What becomes of a start with these answers. -/
def lateStart : Except Failure RunHandle × List Exchange × List Act :=
  (patient.start rehearsal.noted lateInstance).run (lateAnswers, [])

/-- The act is not a message without an answer. -/
def Act.isAnswered : Act → Bool
  | .sent _ (.error _) => false
  | .sent _ (.ok _) => true
  | .paused _ => true

/-- The second lookup finds the run, and the start has kept to its protocol. -/
theorem lateStart_keepsProtocol :
    Text.strip lateInstance.slug ≠ "" ∧ (∃ listing, patient.message patient.listing = .ok listing ∧
      Honest lateStart.2.2 ∧ ∃ dispatch xs,
        KeepsProtocol patient (Text.strip lateInstance.slug) listing dispatch xs lateStart.2.2
          lateStart.1) ∧
    lateStart.1.toOption.map RunHandle.id = some (.number 7) ∧
    (lateStart.2.2.filterMap Act.span?).length = 2 := by
  have hslug : Text.strip lateInstance.slug ≠ "" := by decide
  obtain ⟨listing, hlisting⟩ : ∃ listing, patient.message patient.listing = .ok listing :=
    message_ok_iff.mpr (by decide +kernel)
  have hanswered : lateStart.2.2.all Act.isAnswered = true := by decide +kernel
  have honest : Honest lateStart.2.2 := by
    intro m x hx failure hfailure
    have hanswer := List.all_eq_true.mp hanswered _ hx
    rw [hfailure] at hanswer
    cases hanswer
  have hfound : lateStart.1.toOption.map RunHandle.id = some (.number 7) := by decide +kernel
  have hpauses : (lateStart.2.2.filterMap Act.span?).length = 2 := by decide +kernel
  unfold lateStart at honest hfound hpauses ⊢
  obtain ⟨dispatch, _, _, hprotocol⟩ :=
    (start_keepsProtocol patient rehearsal lateInstance lateAnswers).2.2.2 hslug listing hlisting
  exact ⟨hslug, ⟨listing, hlisting, honest, dispatch, hprotocol honest⟩, hfound, hpauses⟩

/-- A start without a snapshot of the runs fails as the exchange for it does. -/
lemma start_unlisted {ρ : Type} {transport : Transport (StateM ρ)} {a : Account} {inst : Instance}
    (hslug : Text.strip inst.slug ≠ "") {w : ρ} {failure : Failure}
    (hfailure : a.runsOf ((a.exchange transport a.listing).run w).1 = .error failure) :
    ((a.start transport inst).run w).1 = .error failure := by
  obtain ⟨resume, hask, hresume⟩ : ∃ resume,
      Start.next a (Text.strip inst.slug) Start.State.initial = .ask [] (.send a.listing) resume ∧
        ∀ x, a.runsOf x = .error failure → resume x = ⟨[], .ended (.error failure)⟩ :=
    ⟨_, rfl, fun x hx => by simp only [hx]⟩
  have hmove : ((Procedure.move (Start.answer a transport) transport.write
      (Start.next a (Text.strip inst.slug)) Start.State.initial).run w).1 =
      ⟨[], .ended (.error failure)⟩ := by
    rw [Procedure.move_ask _ _ hask]
    exact hresume _ hfailure
  have hdone : Start.next a (Text.strip inst.slug) ⟨[], .ended (.error failure)⟩ =
    .done [] (.error failure) := rfl
  have hbind : ∀ (x : StateM ρ Start.State)
      (f : Start.State → StateM ρ (Option (Except Failure RunHandle))),
      (x >>= f).run w = (f (x.run w).1).run (x.run w).2 := fun _ _ => rfl
  rw [run_start a transport hslug, Account.startHorizon]
  simp only
  rw [Procedure.run_succ _ _ hask (2 * a.lookupAttempts + 3), hbind, hmove,
    Procedure.run_done _ _ hdone (2 * a.lookupAttempts + 2)]
  rfl

/-- A start whose snapshot is answered with too many brackets fails, but not as a call. -/
theorem deepSnapshot_uncalled :
    ((patient.start rehearsal lateInstance).run [deepAnswer]).1 = .error (overflow "array") ∧
      (overflow "array").kind = "RecursionError" ∧ ¬ IsCallError (overflow "array") none := by
  have hslug : Text.strip lateInstance.slug ≠ "" := by decide
  have hexchange : ∀ x, ((patient.exchange rehearsal patient.listing).run [x]).1 = x :=
    fun _ => rfl
  have hruns : patient.runsOf deepAnswer = .error (overflow "array") := by
    rw [Account.runsOf, overflows_deepAnswer.payload]
    rfl
  refine ⟨start_unlisted hslug ?_, rfl, ?_⟩
  · rw [hexchange, hruns]
  · rintro ⟨_, hcall, _⟩
    cases hcall

end Github

end Teardown
