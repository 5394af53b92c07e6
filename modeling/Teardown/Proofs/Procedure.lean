import Mathlib.Tactic.Lemma
import Teardown.Procedure

/-!
# Moves and runs of procedures

A run of a procedure is a sequence of moves, and `move` is one of them: the surroundings write the
log of the state and answer its question.  `run_succ` says that a run is made of moves; the same
moves are what several procedures in common surroundings take in turns.  `run_eq_moves_run` splits a
run after some moves, so that the end of a run is read off the state that its moves lead to.

Invariants are proved over a `view` of the surroundings, the part that a property speaks about.
What an answer may do to the view is a relation `Answers`; `move_invariant` and `run_invariant` lift
a property that every answered question keeps.  `run_view` compares surroundings that differ only
in what a view leaves out.
-/

namespace Teardown.Procedure

/-! ### One move -/

section Move

variable {m : Type → Type} [Monad m] {Q : Type} {A : Q → Type} {S R : Type}
variable (answer : (q : Q) → m (A q)) (write : Log.Entry → m Unit) (next : S → Move Q A S R)

/-- One move of a procedure.  A state that has ended stays as it is. -/
def move (s : S) : m S :=
  match next s with
  | .done _ _ => pure s
  | .ask log question resume => do
    log.forM write
    return resume (← answer question)

variable {next}

/-- A move from a state that has ended does nothing. -/
lemma move_done {s : S} {log : List Log.Entry} {result : R} (h : next s = .done log result) :
    move answer write next s = pure s := by
  unfold move
  rw [h]

/-- A move from a state that asks writes its log and goes on from the answer. -/
lemma move_ask {s : S} {log : List Log.Entry} {q : Q} {resume : A q → S}
    (h : next s = .ask log q resume) :
    move answer write next s = (do log.forM write; return resume (← answer q)) := by
  unfold move
  rw [h]

/-- A run that has a move left makes it and goes on from there. -/
lemma run_succ [LawfulMonad m] {s : S} {log : List Log.Entry} {q : Q} {resume : A q → S}
    (h : next s = .ask log q resume) (n : Nat) :
    run answer write next (n + 1) s =
      (do run answer write next n (← move answer write next s)) := by
  rw [move_ask answer write h, run, h]
  simp only [bind_assoc, pure_bind]

/-- A run from a state that has ended hands out its result. -/
lemma run_done {s : S} {log : List Log.Entry} {result : R} (h : next s = .done log result)
    (n : Nat) :
    run answer write next (n + 1) s = (do log.forM write; pure (some result)) := by
  rw [run, h]

/-- A run with a move to spare makes one move and goes on from there, ended or not. -/
lemma run_eq_move_run [LawfulMonad m] (k : Nat) (s : S) :
    run answer write next (k + 2) s =
      (do run answer write next (k + 1) (← move answer write next s)) := by
  cases hs : next s with
  | done log result =>
    rw [run_done answer write hs, move_done answer write hs, pure_bind, run_done answer write hs]
  | ask log q resume => exact run_succ answer write hs (k + 1)

variable (next)

/-- Several moves of a procedure. -/
def moves : Nat → S → m S
  | 0, s => pure s
  | n + 1, s => do move answer write next (← moves n s)

/-- A run is some of its moves, and the run from there. -/
lemma run_eq_moves_run [LawfulMonad m] (n k : Nat) (s : S) :
    run answer write next (n + (k + 1)) s =
      (do run answer write next (k + 1) (← moves answer write next n s)) := by
  induction n generalizing k with
  | zero => rw [moves, pure_bind, Nat.zero_add]
  | succ n ih =>
    have hlength : n + 1 + (k + 1) = n + (k + 1 + 1) := by omega
    rw [hlength, ih (k + 1), moves, bind_assoc]
    congr 1
    funext t
    exact run_eq_move_run answer write k t

end Move

/-! ### Invariants -/

section Invariant

variable {W V : Type} {Q : Type} {A : Q → Type} {S R : Type}
variable {answer : (q : Q) → StateM W (A q)} {write : Log.Entry → StateM W Unit}
variable {next : S → Move Q A S R} {view : W → V}
variable {Answers : V → (q : Q) → A q → V → Prop} {Inv : S → V → Prop}

/-- Writing a log leaves the view alone when writing an entry does. -/
lemma view_forM_write (hwrite : ∀ e w, view ((write e).run w).2 = view w) (log : List Log.Entry)
    (w : W) : view ((log.forM write).run w).2 = view w := by
  induction log generalizing w with
  | nil => rfl
  | cons e rest ih =>
    have hcons : (((e :: rest).forM write).run w).2 =
        ((rest.forM write).run ((write e).run w).2).2 := rfl
    rw [hcons, ih, hwrite]

/-- What every answered question keeps, a move keeps. -/
theorem move_invariant (hwrite : ∀ e w, view ((write e).run w).2 = view w)
    (hanswer : ∀ q w, Answers (view w) q ((answer q).run w).1 (view ((answer q).run w).2))
    (hkeep : ∀ {s v log q resume a v'}, Inv s v → next s = .ask log q resume →
      Answers v q a v' → Inv (resume a) v')
    {s : S} {w : W} (h : Inv s (view w)) :
    Inv ((move answer write next s).run w).1 (view ((move answer write next s).run w).2) := by
  cases hs : next s with
  | done log result =>
    rw [move_done answer write hs]
    exact h
  | ask log q resume =>
    rw [move_ask answer write hs]
    have hlog : view ((log.forM write).run w).2 = view w := view_forM_write hwrite log w
    have hq := hanswer q ((log.forM write).run w).2
    rw [hlog] at hq
    exact hkeep h hs hq

/-- What every answered question keeps, several moves keep. -/
theorem moves_invariant (hwrite : ∀ e w, view ((write e).run w).2 = view w)
    (hanswer : ∀ q w, Answers (view w) q ((answer q).run w).1 (view ((answer q).run w).2))
    (hkeep : ∀ {s v log q resume a v'}, Inv s v → next s = .ask log q resume →
      Answers v q a v' → Inv (resume a) v')
    (n : Nat) {s : S} {w : W} (h : Inv s (view w)) :
    Inv ((moves answer write next n s).run w).1 (view ((moves answer write next n s).run w).2) := by
  induction n with
  | zero => exact h
  | succ n ih => exact move_invariant hwrite hanswer hkeep ih

/-- A run shows what its moves show. -/
lemma view_run (hwrite : ∀ e w, view ((write e).run w).2 = view w) (n : Nat) (s : S) (w : W) :
    view ((run answer write next n s).run w).2 = view ((moves answer write next n s).run w).2 := by
  cases n with
  | zero => rfl
  | succ n =>
    -- Writing the log of an ended state does not show; a last question is answered as in a move.
    have hone : ∀ t u, view ((run answer write next 1 t).run u).2 =
        view ((move answer write next t).run u).2 := by
      intro t u
      cases ht : next t with
      | done log result =>
        rw [run_done answer write ht, move_done answer write ht]
        exact view_forM_write hwrite log u
      | ask log q resume =>
        rw [run_succ answer write ht]
        rfl
    rw [run_eq_moves_run answer write next n 0 s]
    exact hone _ _

/-- A run has a result if its moves, all but the last, lead to a state that has ended with it. -/
lemma run_eq_some_iff (n : Nat) (s : S) (w : W) (result : R) :
    ((run answer write next (n + 1) s).run w).1 = some result ↔
      ∃ log, next ((moves answer write next n s).run w).1 = .done log result := by
  have hone : ∀ t u, ((run answer write next 1 t).run u).1 = some result ↔
      ∃ log, next t = .done log result := by
    intro t u
    cases ht : next t with
    | done log result' =>
      rw [run_done answer write ht]
      constructor
      · intro h
        exact ⟨log, congrArg (Move.done log) (Option.some.inj h)⟩
      · rintro ⟨_, h⟩
        cases h
        rfl
    | ask log q resume =>
      rw [run_succ answer write ht]
      constructor
      · intro h
        cases h
      · rintro ⟨_, h⟩
        cases h
  rw [run_eq_moves_run answer write next n 0 s]
  exact hone _ _

/-- More moves change nothing in a run that has a result. -/
lemma run_add_of_eq_some {n : Nat} {s : S} {w w' : W} {result : R}
    (h : (run answer write next n s).run w = (some result, w')) (more : Nat) :
    (run answer write next (n + more) s).run w = (some result, w') := by
  induction n generalizing s w with
  | zero => cases h
  | succ n ih =>
    rw [Nat.succ_add]
    unfold run at h ⊢
    cases hs : next s with
    | done log result' =>
      rw [hs] at h
      exact h
    | ask log q resume =>
      rw [hs] at h
      exact ih h

/-- What every answered question keeps, a run keeps: the invariant holds of some state that the run
stops in, and a run with a result stops in a state that has ended with it. -/
theorem run_invariant (hwrite : ∀ e w, view ((write e).run w).2 = view w)
    (hanswer : ∀ q w, Answers (view w) q ((answer q).run w).1 (view ((answer q).run w).2))
    (hkeep : ∀ {s v log q resume a v'}, Inv s v → next s = .ask log q resume →
      Answers v q a v' → Inv (resume a) v')
    (n : Nat) {s : S} {w : W} (h : Inv s (view w)) :
    ∃ t, Inv t (view ((run answer write next n s).run w).2) ∧
      ∀ result, ((run answer write next n s).run w).1 = some result →
        ∃ log, next t = .done log result := by
  refine ⟨((moves answer write next n s).run w).1, ?_, fun result hr => ?_⟩
  · rw [view_run hwrite]
    exact moves_invariant hwrite hanswer hkeep n h
  · cases n with
    | zero => cases hr
    | succ n =>
      obtain ⟨log, hdone⟩ := (run_eq_some_iff n s w result).mp hr
      have hstays : ((moves answer write next (n + 1) s).run w).1 =
          ((moves answer write next n s).run w).1 :=
        congrArg (fun x => (StateT.run x ((moves answer write next n s).run w).2).1)
          (move_done answer write hdone)
      rw [hstays]
      exact ⟨log, hdone⟩

end Invariant

/-! ### Views -/

section View

variable {W V : Type} {Q : Type} {A : Q → Type} {S R : Type}
variable {answer : (q : Q) → StateM W (A q)} {write : Log.Entry → StateM W Unit}
variable {finer : (q : Q) → StateM V (A q)} {finerWrite : Log.Entry → StateM V Unit}

/-- Surroundings that look alike in a view, and answer alike, run a procedure alike. -/
theorem run_view (view : V → W) (next : S → Move Q A S R)
    (hanswer : ∀ q v, ((finer q).run v).1 = ((answer q).run (view v)).1 ∧
      view ((finer q).run v).2 = ((answer q).run (view v)).2)
    (hwrite : ∀ e v, view ((finerWrite e).run v).2 = ((write e).run (view v)).2)
    (n : Nat) (s : S) (v : V) :
    ((run finer finerWrite next n s).run v).1 = ((run answer write next n s).run (view v)).1 ∧
      view ((run finer finerWrite next n s).run v).2 =
        ((run answer write next n s).run (view v)).2 := by
  have hlog : ∀ (log : List Log.Entry) v,
      view ((log.forM finerWrite).run v).2 = ((log.forM write).run (view v)).2 := by
    intro log
    induction log with
    | nil => exact fun _ => rfl
    | cons e rest ih =>
      intro v
      have hrest := ih ((finerWrite e).run v).2
      rw [hwrite] at hrest
      exact hrest
  induction n generalizing s v with
  | zero => exact ⟨rfl, rfl⟩
  | succ n ih =>
    unfold run
    cases next s with
    | done log result => exact ⟨rfl, hlog log v⟩
    | ask log q resume =>
      let x := (finer q).run ((log.forM finerWrite).run v).2
      let y := (answer q).run ((log.forM write).run (view v)).2
      obtain ⟨hsame, hview⟩ : x.1 = y.1 ∧ view x.2 = y.2 := by
        have hq := hanswer q ((log.forM finerWrite).run v).2
        rw [hlog] at hq
        exact hq
      have hrest := ih (resume x.1) x.2
      have hresult : (run answer write next n (resume x.1)).run (view x.2) =
          (run answer write next n (resume y.1)).run y.2 := by
        rw [hsame, hview]
      rw [hresult] at hrest
      exact hrest

end View

end Teardown.Procedure
