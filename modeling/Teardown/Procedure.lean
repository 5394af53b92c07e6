import Teardown.Log

/-!
# Procedures that ask their surroundings

A procedure is a machine that moves from state to state. At each move it either ends with a
result, or it asks one question of its surroundings and continues from the answer. Storage,
clocks and remote services are surroundings; the machine itself is a pure function, so that runs
of one procedure, and interleavings of several, can be reasoned about move by move.
-/

namespace Teardown

/-- One move of a procedure with questions `Q` answered in `A`, states `S` and results `R`. The
log entries are written before the question is asked or the result is handed out. -/
inductive Move (Q : Type) (A : Q → Type) (S R : Type) where
  | done (log : List Log.Entry) (result : R)
  | ask (log : List Log.Entry) (question : Q) (resume : A question → S)

namespace Procedure

/-- Runs a procedure in surroundings that answer its questions and take its log entries, for at
most `horizon` moves; nothing is returned when the horizon is passed. -/
def run {m : Type → Type} [Monad m] {Q : Type} {A : Q → Type} {S R : Type}
    (answer : (q : Q) → m (A q)) (write : Log.Entry → m Unit)
    (next : S → Move Q A S R) : Nat → S → m (Option R)
  | 0, _ => pure none
  | horizon + 1, s =>
    match next s with
    | .done log result => do
      log.forM write
      pure (some result)
    | .ask log question resume => do
      log.forM write
      let a ← answer question
      run answer write next horizon (resume a)

end Procedure

end Teardown
