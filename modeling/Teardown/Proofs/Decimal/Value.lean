import Mathlib.Algebra.Order.Field.Basic
import Mathlib.Data.Rat.Defs
import Mathlib.Tactic.FieldSimp
import Mathlib.Tactic.Lemma
import Mathlib.Tactic.Linarith
import Mathlib.Tactic.NormNum
import Mathlib.Tactic.Ring
import Teardown.Decimal.Shortest

/-!
# The values of floats and the numbers around them

The parts of a positive finite float have a value, which is rational, and a float claims all numbers
that are rounded to it: those between `Binary.low` and `Binary.high`, with both ends if and only if
the significand is even.  `interval_holds_iff` says that this is what the exact arithmetic on naturals
tests.

`Binary.Canonical` collects what is known of the parts of a float that was given by its bits.
-/

namespace Teardown.Decimal

/-! ### Powers -/

lemma twoTo_eq (n : Nat) : twoTo n = 2 ^ n := rfl

lemma tenTo_eq (n : Nat) : tenTo n = 10 ^ n := rfl

lemma twoTo_pos (n : Nat) : 0 < twoTo n := Nat.pow_pos (by decide)

lemma tenTo_pos (n : Nat) : 0 < tenTo n := Nat.pow_pos (by decide)

/-- A power with an integer exponent as a quotient of powers of a natural number. -/
lemma zpow_eq_div (b : ℚ) (e : Int) : b ^ e = b ^ e.toNat / b ^ (-e).toNat := by
  rcases le_total 0 e with h | h
  · obtain ⟨n, rfl⟩ := Int.eq_ofNat_of_zero_le h
    simp
  · obtain ⟨n, hn⟩ := Int.eq_ofNat_of_zero_le (neg_nonneg.mpr h)
    obtain rfl : e = -n := by omega
    simp

/-- A power of two with an integer exponent. -/
lemma two_zpow_eq (e : Int) : (2 : ℚ) ^ e = twoTo e.toNat / twoTo (-e).toNat := by
  rw [zpow_eq_div 2, twoTo_eq, twoTo_eq]
  push_cast
  rfl

/-- A power of ten with an integer exponent. -/
lemma ten_zpow_eq (e : Int) : (10 : ℚ) ^ e = tenTo e.toNat / tenTo (-e).toNat := by
  rw [zpow_eq_div 10, tenTo_eq, tenTo_eq]
  push_cast
  rfl

lemma two_zpow_pos (e : Int) : (0 : ℚ) < 2 ^ e := zpow_pos (by norm_num) e

lemma ten_zpow_pos (e : Int) : (0 : ℚ) < 10 ^ e := zpow_pos (by norm_num) e

/-! ### The parts of a float -/

namespace Binary

/-- The value of the parts of a float. -/
def value (b : Binary) : ℚ :=
  b.significand * 2 ^ b.exponent

/-- The lower end of the numbers that are rounded to a float. -/
def low (b : Binary) : ℚ :=
  (b.significand - if b.uneven then 1 / 4 else 1 / 2) * 2 ^ b.exponent

/-- The upper end of the numbers that are rounded to a float. -/
def high (b : Binary) : ℚ :=
  (b.significand + 1 / 2) * 2 ^ b.exponent

/-- The numbers that are rounded to a float. -/
def Claims (b : Binary) (q : ℚ) : Prop :=
  if b.significand % 2 = 0 then b.low ≤ q ∧ q ≤ b.high else b.low < q ∧ q < b.high

/-- What holds of the parts of a positive finite float with the given bits. -/
structure Canonical (b : Binary) (bits : Nat) : Prop where
  pos : 0 < b.significand
  lt : b.significand < 2 ^ 53
  exponent_ge : -1074 ≤ b.exponent
  exponent_le : b.exponent ≤ 971
  /-- Only the smallest exponent has significands without the leading bit. -/
  normal : -1074 < b.exponent → 2 ^ 52 ≤ b.significand
  uneven_iff : b.uneven = true ↔ -1074 < b.exponent ∧ b.significand = 2 ^ 52
  bits_eq : bits = (b.exponent + 1074).toNat * 2 ^ 52 + b.significand

/-- The parts of a positive finite float. -/
lemma ofBits_canonical {bits : Nat} (hpos : 0 < bits) (hlt : bits < 0x7FF0000000000000) :
    (ofBits bits).Canonical bits := by
  have hsplit : bits / 2 ^ 52 * 2 ^ 52 + bits % 2 ^ 52 = bits := Nat.div_add_mod' bits (2 ^ 52)
  have hfraction : bits % 2 ^ 52 < 2 ^ 52 := Nat.mod_lt _ (by decide)
  have hfield : bits / 2 ^ 52 < 2047 := by omega
  by_cases hzero : bits / 2 ^ 52 = 0
  · have hparts : ofBits bits = ⟨bits % 2 ^ 52, -1074, false⟩ := if_pos hzero
    rw [hparts]
    constructor
    case uneven_iff => simp
    all_goals dsimp only
    all_goals omega
  · have hparts : ofBits bits = ⟨2 ^ 52 + bits % 2 ^ 52, (bits / 2 ^ 52 : Nat) - 1075,
        bits % 2 ^ 52 == 0 && 1 < bits / 2 ^ 52⟩ := if_neg hzero
    rw [hparts]
    constructor
    case uneven_iff =>
      simp only [Bool.and_eq_true, beq_iff_eq, decide_eq_true_eq]
      omega
    all_goals dsimp only
    all_goals omega

/-- The parts of a positive float have a positive value. -/
lemma Canonical.value_pos {b : Binary} {bits : Nat} (h : b.Canonical bits) : 0 < b.value :=
  mul_pos (by exact_mod_cast h.pos) (two_zpow_pos _)

/-! ### The interval of a float -/

section Interval

variable (b : Binary)

/-- The numerators of the interval, in the unit of its denominator. -/
lemma interval_ratio (n : Nat) :
    ((n * twoTo (b.exponent - 2).toNat : Nat) : ℚ) / b.interval.denominator =
      n / 4 * 2 ^ b.exponent := by
  have hsplit : (2 : ℚ) ^ b.exponent = 4 * 2 ^ (b.exponent - 2) := by
    have hfour : (4 : ℚ) = 2 ^ (2 : Int) := by norm_num
    rw [hfour, ← zpow_add₀ (by norm_num)]
    congr 1
    omega
  have hdenominator : b.interval.denominator = twoTo (-(b.exponent - 2)).toNat := by
    have hneg : -(b.exponent - 2) = 2 - b.exponent := by omega
    rw [hneg]
    rfl
  rw [hsplit, two_zpow_eq (b.exponent - 2), hdenominator]
  push_cast
  ring

/-- The exact value of a float. -/
lemma interval_value : (b.interval.value : ℚ) / b.interval.denominator = b.value := by
  have hratio := interval_ratio b (4 * b.significand)
  unfold value
  rw [show b.interval.value = 4 * b.significand * twoTo (b.exponent - 2).toNat from rfl, hratio]
  push_cast
  ring

lemma interval_high : (b.interval.high : ℚ) / b.interval.denominator = b.high := by
  have hratio := interval_ratio b (4 * b.significand + 2)
  unfold high
  rw [show b.interval.high = (4 * b.significand + 2) * twoTo (b.exponent - 2).toNat from rfl, hratio]
  push_cast
  ring

lemma interval_low (hpos : 0 < b.significand) :
    (b.interval.low : ℚ) / b.interval.denominator = b.low := by
  have hratio := interval_ratio b (4 * b.significand - if b.uneven then 1 else 2)
  unfold low
  rw [show b.interval.low = (4 * b.significand - if b.uneven then 1 else 2) *
    twoTo (b.exponent - 2).toNat from rfl, hratio]
  split
  · rw [Nat.cast_sub (by omega)]
    push_cast
    ring
  · rw [Nat.cast_sub (by omega)]
    push_cast
    ring

lemma interval_denominator_pos : 0 < b.interval.denominator := twoTo_pos _

/-- What the interval holds is what the float claims. -/
lemma interval_holds_iff (hpos : 0 < b.significand) {num den : Nat} (hden : 0 < den) :
    b.interval.holds num den = true ↔ b.Claims (num / den) := by
  have hd : (0 : ℚ) < b.interval.denominator := by exact_mod_cast interval_denominator_pos b
  have hq : (0 : ℚ) < den := by exact_mod_cast hden
  have hbelow : ∀ m n : Nat, ((m : ℚ) / b.interval.denominator ≤ n / den ↔
      m * den ≤ n * b.interval.denominator) ∧ ((m : ℚ) / b.interval.denominator < n / den ↔
      m * den < n * b.interval.denominator) := by
    intro m n
    rw [div_le_div_iff₀ hd hq, div_lt_div_iff₀ hd hq]
    exact ⟨by exact_mod_cast Iff.rfl, by exact_mod_cast Iff.rfl⟩
  have habove : ∀ m n : Nat, ((n : ℚ) / den ≤ m / b.interval.denominator ↔
      n * b.interval.denominator ≤ m * den) ∧ ((n : ℚ) / den < m / b.interval.denominator ↔
      n * b.interval.denominator < m * den) := by
    intro m n
    rw [div_le_div_iff₀ hq hd, div_lt_div_iff₀ hq hd]
    exact ⟨by exact_mod_cast Iff.rfl, by exact_mod_cast Iff.rfl⟩
  have hclosed : b.interval.closed = (b.significand % 2 == 0) := rfl
  unfold Claims Interval.holds
  rw [← interval_low b hpos, ← interval_high b, (hbelow _ _).1, (hbelow _ _).2, (habove _ _).1,
    (habove _ _).2, hclosed]
  by_cases heven : b.significand % 2 = 0
  · simp [heven]
  · simp [heven]

end Interval

end Binary

end Teardown.Decimal
