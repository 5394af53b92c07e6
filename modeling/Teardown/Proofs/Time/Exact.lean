import Teardown.Decimal.Nearest
import Teardown.Decimal.Round
import Teardown.Proofs.Decimal.Bits
import Teardown.Proofs.Decimal.Value
import Teardown.Time.Seconds

/-!
# Exact time

`Exact` has the rational numbers, two infinities and one value that is not a number.  Finite values
are added without rounding; with the other values it is reckoned as the standard of floating-point
arithmetic prescribes.  `Exact.ofFloat` is the value of a float, so that a wait with limits that are
floats can be read over exact time.
-/

namespace Teardown

/-! ### Exact numbers -/

/-- A number of seconds without rounding, an infinity, or no number. -/
inductive Exact where
  | finite (q : ℚ)
  | infinite (negative : Bool)
  | notANumber
deriving DecidableEq

namespace Exact

/-- The value of a float. -/
def ofFloat (x : Float) : Exact :=
  let negative : Bool := 2 ^ 63 ≤ x.toBits.toNat
  let magnitude := x.toBits.toNat % 2 ^ 63
  if Decimal.infinityBits < magnitude then .notANumber
  else if magnitude = Decimal.infinityBits then .infinite negative
  else
    let value := (Decimal.Binary.ofBits magnitude).value
    .finite (if negative then -value else value)

/-- The value of a number of seconds. -/
def ofSeconds : Seconds → Exact
  | .whole n => .finite n
  | .decimal x => ofFloat x

/-- The float nearest to a number. -/
def toFloat : Exact → Float
  | .finite q => Decimal.ofRatio (q < 0) q.num.natAbs q.den
  | .infinite negative => if negative then -(1.0 / 0.0) else 1.0 / 0.0
  | .notANumber => 0.0 / 0.0

/-- The sum of two numbers; infinities of different signs have none. -/
protected def add : Exact → Exact → Exact
  | .notANumber, _ => .notANumber
  | _, .notANumber => .notANumber
  | .finite a, .finite b => .finite (a + b)
  | .finite _, .infinite t => .infinite t
  | .infinite s, .finite _ => .infinite s
  | .infinite s, .infinite t => if s = t then .infinite s else .notANumber

/-- The number with the other sign. -/
protected def neg : Exact → Exact
  | .finite q => .finite (-q)
  | .infinite negative => .infinite (!negative)
  | .notANumber => .notANumber

/-- Whether the first number is at most the second. -/
protected def le : Exact → Exact → Bool
  | .notANumber, _ => false
  | _, .notANumber => false
  | .finite a, .finite b => a ≤ b
  | .infinite negative, .finite _ => negative
  | .finite _, .infinite negative => !negative
  | .infinite s, .infinite t => s || !t

/-- The number to three places, a half going to the even neighbour. -/
def rounded : Exact → Exact
  | .finite q =>
    let thousandths : Nat := Decimal.roundHalfEven (1000 * q.num.natAbs) q.den
    .finite ((if q < 0 then -(thousandths : ℚ) else thousandths) / 1000)
  | x => x

instance : TimeScale Exact where
  notPositive x := x.le (.finite 0)
  after := Exact.add
  reached := Exact.le
  elapsed started now := (now.add started.neg).rounded
  display x := Decimal.display x.toFloat
  toJson x := .float x.toFloat

/-- A float above zero is infinite, or it has a positive value. -/
lemma ofFloat_of_pos {x : Float} (h : 0.0 < x) :
    ofFloat x = .infinite false ∨ ∃ q, ofFloat x = .finite q ∧ 0 < q := by
  obtain ⟨hpos, hle⟩ := (Decimal.zero_lt_iff x).mp h
  have hsmall : x.toBits.toNat < 2 ^ 63 := hle.trans_lt (by decide)
  have hsign : decide (2 ^ 63 ≤ x.toBits.toNat) = false := decide_eq_false (not_le.mpr hsmall)
  have hmagnitude : x.toBits.toNat % 2 ^ 63 = x.toBits.toNat := Nat.mod_eq_of_lt hsmall
  unfold ofFloat
  rw [hsign, hmagnitude]
  dsimp only
  rw [if_neg (not_lt.mpr hle)]
  split
  · exact .inl rfl
  · rename_i hne
    have hlt : x.toBits.toNat < Decimal.infinityBits := lt_of_le_of_ne hle hne
    exact .inr ⟨_, rfl, (Decimal.Binary.ofBits_canonical hpos hlt).value_pos⟩

/-- Exactly one float is infinite and has no sign. -/
lemma ofFloat_eq_infinite_iff (x : Float) :
    ofFloat x = .infinite false ↔ x.toBits.toNat = Decimal.infinityBits := by
  unfold ofFloat
  dsimp only
  split
  · constructor
    · intro h
      cases h
    · intro h
      rename_i hlt
      rw [h] at hlt
      exact absurd hlt (by decide)
  · split
    · rename_i hmagnitude
      rw [infinite.injEq, decide_eq_false_iff_not]
      unfold Decimal.infinityBits at *
      have hbits : x.toBits.toNat < 2 ^ 64 := x.toBits.toNat_lt
      omega
    · rename_i hne
      constructor
      · intro h
        cases h
      · intro h
        rw [h] at hne
        exact absurd rfl hne

lemma notPositive_finite {q : ℚ} (h : 0 < q) : TimeScale.notPositive (Exact.finite q) = false :=
  decide_eq_false (not_le.mpr h)

/-- A positive number is not refused as a limit. -/
lemma notPositive_ofFloat {x : Float} (h : 0.0 < x) :
    TimeScale.notPositive (ofFloat x) = false := by
  rcases ofFloat_of_pos h with hx | ⟨q, hx, hq⟩
  · rw [hx]
    rfl
  · rw [hx]
    exact notPositive_finite hq

end Exact

end Teardown
