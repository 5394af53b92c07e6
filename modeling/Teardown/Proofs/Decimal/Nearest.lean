import Mathlib.Tactic.LinearCombination
import Teardown.Decimal.Nearest
import Teardown.Proofs.Decimal.Value

/-!
# The nearest float

`nearestBits_of_claims` says that a fraction is rounded to the float that claims it.  The rounding
chooses an exponent and rounds the fraction at this exponent to a significand; `Chosen` is all that is
known of the choice: the significand has at most 53 digits, and unless the exponent is the smallest
one, the fraction has at least 53 digits before the point.  With this, the exponent is the one of the
claiming float, except for a fraction just below a power of two, which is rounded up to it from the
exponent below.
-/

namespace Teardown.Decimal

/-! ### Rounding to a natural number -/

section Round

variable {num den n : Nat}

/-- A fraction at most a half away from a number is rounded to it, if the number is even or the
fraction is closer. -/
lemma roundHalfEven_eq_of_le (hlow : 2 * (n * den) ≤ 2 * num + den)
    (hhigh : 2 * num ≤ 2 * (n * den) + den)
    (hodd : n % 2 = 1 → 2 * (n * den) < 2 * num + den ∧ 2 * num < 2 * (n * den) + den)
    (hden : 0 < den) : roundHalfEven num den = n := by
  have hsplit : den * (num / den) + num % den = num := Nat.div_add_mod num den
  have hrest : num % den < den := Nat.mod_lt _ hden
  unfold roundHalfEven
  dsimp only
  generalize num / den = a at *
  generalize num % den = r at *
  -- The number is one of the two neighbours of the fraction.
  have hle : a ≤ n := by
    by_contra hlt
    have hmul : (n + 1) * den ≤ a * den := Nat.mul_le_mul_right den (by omega)
    nlinarith
  have hge : n ≤ a + 1 := by
    by_contra hlt
    have hmul : (a + 2) * den ≤ n * den := Nat.mul_le_mul_right den (by omega)
    nlinarith
  obtain rfl | rfl : n = a ∨ n = a + 1 := by omega
  · have hcomm : den * n = n * den := Nat.mul_comm _ _
    split_ifs <;> omega
  · have hcomm : (a + 1) * den = den * a + den := by ring
    rw [hcomm] at hlow hhigh hodd
    split_ifs <;> omega

/-- Rounding moves a fraction by at most a half. -/
lemma roundHalfEven_near (hden : 0 < den) :
    2 * (roundHalfEven num den * den) ≤ 2 * num + den ∧
      2 * num ≤ 2 * (roundHalfEven num den * den) + den := by
  have hsplit : den * (num / den) + num % den = num := Nat.div_add_mod num den
  have hrest : num % den < den := Nat.mod_lt _ hden
  unfold roundHalfEven
  dsimp only
  generalize num / den = a at *
  generalize num % den = r at *
  have hcomm : a * den = den * a := Nat.mul_comm _ _
  have hnext : (a + 1) * den = den * a + den := by ring
  split_ifs
  · omega
  · omega
  · rcases Nat.mod_two_eq_zero_or_one a with h | h
    · rw [h, Nat.add_zero]
      omega
    · rw [h]
      omega

end Round

/-! ### Rounding at an exponent -/

section Significand

variable {num den : Nat} (hden : 0 < den) (e : Int)

include hden

/-- At an exponent, the fraction is scaled and rounded. -/
lemma significandAt_eq_roundHalfEven : ∃ num' den', 0 < den' ∧
    significandAt num den e = roundHalfEven num' den' ∧
      (num' : ℚ) / den' = num / den * 2 ^ (-e) := by
  unfold significandAt
  split
  · rename_i he
    refine ⟨num, den * twoTo e.toNat, Nat.mul_pos hden (twoTo_pos _), rfl, ?_⟩
    have hneg : (-e).toNat = 0 := by omega
    rw [two_zpow_eq, neg_neg, hneg]
    push_cast
    rw [twoTo_zero, div_mul_eq_div_div, Nat.cast_one, one_div, div_eq_mul_inv (_ / _)]
  · rename_i he
    refine ⟨num * twoTo (-e).toNat, den, hden, rfl, ?_⟩
    have hneg : e.toNat = 0 := by omega
    rw [two_zpow_eq, neg_neg, hneg]
    push_cast
    rw [twoTo_zero, Nat.cast_one, div_one, div_mul_eq_mul_div]

/-- Rounding at an exponent moves the scaled fraction by at most a half. -/
lemma significandAt_near :
    (significandAt num den e : ℚ) - 1 / 2 ≤ num / den * 2 ^ (-e) ∧
      num / den * 2 ^ (-e) ≤ (significandAt num den e : ℚ) + 1 / 2 := by
  obtain ⟨num', den', hden', hround, hratio⟩ := @significandAt_eq_roundHalfEven num den hden e
  obtain ⟨hlow, hhigh⟩ := @roundHalfEven_near num' den' hden'
  have hpos : (0 : ℚ) < den' := by exact_mod_cast hden'
  have hlow' : 2 * ((roundHalfEven num' den' : ℚ) * den') ≤ 2 * num' + den' := by exact_mod_cast hlow
  have hhigh' : 2 * (num' : ℚ) ≤ 2 * ((roundHalfEven num' den' : ℚ) * den') + den' := by
    exact_mod_cast hhigh
  rw [hround, ← hratio]
  constructor
  · rw [le_div_iff₀ hpos]
    linarith
  · rw [div_le_iff₀ hpos]
    linarith

/-- A scaled fraction at most a half away from a number is rounded to it, if the number is even or the
fraction is closer. -/
lemma significandAt_eq {n : Nat} (hlow : (n : ℚ) - 1 / 2 ≤ num / den * 2 ^ (-e))
    (hhigh : (num : ℚ) / den * 2 ^ (-e) ≤ n + 1 / 2)
    (hodd : n % 2 = 1 → (n : ℚ) - 1 / 2 < num / den * 2 ^ (-e) ∧
      (num : ℚ) / den * 2 ^ (-e) < n + 1 / 2) : significandAt num den e = n := by
  obtain ⟨num', den', hden', hround, hratio⟩ := @significandAt_eq_roundHalfEven num den hden e
  have hpos : (0 : ℚ) < den' := by exact_mod_cast hden'
  rw [← hratio] at hlow hhigh hodd
  rw [hround]
  refine roundHalfEven_eq_of_le ?_ ?_ (fun h => ?_) hden'
  · rw [le_div_iff₀ hpos] at hlow
    have hcast : 2 * ((n : ℚ) * den') ≤ 2 * num' + den' := by linarith
    exact_mod_cast hcast
  · rw [div_le_iff₀ hpos] at hhigh
    have hcast : 2 * (num' : ℚ) ≤ 2 * (n * den') + den' := by linarith
    exact_mod_cast hcast
  · obtain ⟨hlow', hhigh'⟩ := hodd h
    rw [lt_div_iff₀ hpos] at hlow'
    rw [div_lt_iff₀ hpos] at hhigh'
    have hcast : 2 * ((n : ℚ) * den') < 2 * num' + den' := by linarith
    have hcast' : 2 * (num' : ℚ) < 2 * (n * den') + den' := by linarith
    exact ⟨by exact_mod_cast hcast, by exact_mod_cast hcast'⟩

end Significand

/-! ### The choice of the exponent -/

/-- The exponent at which a fraction is rounded. -/
def chosenExponent (num den : Nat) : Int :=
  if significandAt num den (binaryExponent num den) ≤ twoTo 53 then binaryExponent num den
  else binaryExponent num den + 1

/-- What is known of the exponent at which a fraction is rounded. -/
structure Chosen (num den : Nat) (e : Int) : Prop where
  ge : -1074 ≤ e
  significand_le : significandAt num den e ≤ 2 ^ 53
  large : -1074 < e → (2 : ℚ) ^ 52 < num / den * 2 ^ (-e)

section Chosen

variable {num den : Nat} (hnum : 0 < num) (hden : 0 < den)

include hnum hden

/-- A fraction lies between the powers of two that its logarithms name. -/
lemma log2_bounds :
    (2 : ℚ) ^ ((num.log2 : Int) - den.log2 - 1) < num / den ∧
      (num : ℚ) / den < 2 ^ ((num.log2 : Int) - den.log2 + 1) := by
  have hpos : (0 : ℚ) < den := by exact_mod_cast hden
  have hnumLow : (2 : ℚ) ^ num.log2 ≤ num := by exact_mod_cast Nat.log2_self_le hnum.ne'
  have hnumHigh : (num : ℚ) < 2 ^ (num.log2 + 1) := by exact_mod_cast Nat.lt_log2_self
  have hdenLow : (2 : ℚ) ^ den.log2 ≤ den := by exact_mod_cast Nat.log2_self_le hden.ne'
  have hdenHigh : (den : ℚ) < 2 ^ (den.log2 + 1) := by exact_mod_cast Nat.lt_log2_self
  constructor
  · rw [lt_div_iff₀ hpos]
    calc (2 : ℚ) ^ ((num.log2 : Int) - den.log2 - 1) * den
        < 2 ^ ((num.log2 : Int) - den.log2 - 1) * 2 ^ (den.log2 + 1) :=
          mul_lt_mul_of_pos_left hdenHigh (two_zpow_pos _)
      _ = 2 ^ num.log2 := by
          rw [← zpow_natCast, ← zpow_natCast, ← zpow_add₀ (by norm_num)]
          congr 1
          push_cast
          ring
      _ ≤ num := hnumLow
  · rw [div_lt_iff₀ hpos]
    calc (num : ℚ) < 2 ^ (num.log2 + 1) := hnumHigh
      _ = 2 ^ ((num.log2 : Int) - den.log2 + 1) * 2 ^ den.log2 := by
          rw [← zpow_natCast, ← zpow_natCast, ← zpow_add₀ (by norm_num)]
          congr 1
          push_cast
          ring
      _ ≤ 2 ^ ((num.log2 : Int) - den.log2 + 1) * den :=
          mul_le_mul_of_nonneg_left hdenLow (two_zpow_pos _).le

/-- Scaled by the guessed exponent, a fraction has at most 54 digits before the point. -/
lemma scaled_binaryExponent_lt :
    (num : ℚ) / den * 2 ^ (-binaryExponent num den) < 2 ^ 54 := by
  have hle : (num.log2 : Int) - den.log2 - 53 ≤ binaryExponent num den := le_max_right _ _
  calc (num : ℚ) / den * 2 ^ (-binaryExponent num den)
      < 2 ^ ((num.log2 : Int) - den.log2 + 1) * 2 ^ (-binaryExponent num den) :=
        mul_lt_mul_of_pos_right (log2_bounds hnum hden).2 (two_zpow_pos _)
    _ = 2 ^ ((num.log2 : Int) - den.log2 + 1 - binaryExponent num den) := by
        rw [← zpow_add₀ (by norm_num)]
        congr 1
    _ ≤ (2 : ℚ) ^ (54 : Int) := by
        apply zpow_le_zpow_right₀ (by norm_num)
        omega
    _ = 2 ^ 54 := by norm_num

/-- Scaled by the guessed exponent, a fraction that is not tiny has at least 53 digits before the
point. -/
lemma lt_scaled_binaryExponent (hlarge : -1074 < binaryExponent num den) :
    (2 : ℚ) ^ 52 < num / den * 2 ^ (-binaryExponent num den) := by
  have hguess : binaryExponent num den = max (-1074) ((num.log2 : Int) - den.log2 - 53) := rfl
  have heq : binaryExponent num den = (num.log2 : Int) - den.log2 - 53 := by omega
  calc (2 : ℚ) ^ 52 = 2 ^ ((num.log2 : Int) - den.log2 - 1 - binaryExponent num den) := by
        rw [heq, ← zpow_natCast]
        congr 1
        push_cast
        ring
    _ = 2 ^ ((num.log2 : Int) - den.log2 - 1) * 2 ^ (-binaryExponent num den) := by
        rw [← zpow_add₀ (by norm_num)]
        congr 1
    _ < num / den * 2 ^ (-binaryExponent num den) :=
        mul_lt_mul_of_pos_right (log2_bounds hnum hden).1 (two_zpow_pos _)

/-- The exponent at which a fraction is rounded is chosen well. -/
lemma chosen_chosenExponent : Chosen num den (chosenExponent num den) := by
  have hge : -1074 ≤ binaryExponent num den := le_max_left _ _
  have hscaled := scaled_binaryExponent_lt hnum hden
  unfold chosenExponent
  split
  · rename_i hle
    exact ⟨hge, hle, lt_scaled_binaryExponent hnum hden⟩
  · rename_i hgt
    have hhalf : (num : ℚ) / den * 2 ^ (-(binaryExponent num den + 1)) =
        num / den * 2 ^ (-binaryExponent num den) / 2 := by
      rw [neg_add, zpow_add₀ (by norm_num)]
      ring
    constructor
    · omega
    · obtain ⟨hnear, _⟩ := @significandAt_near num den hden (binaryExponent num den + 1)
      rw [hhalf] at hnear
      have hlt : (significandAt num den (binaryExponent num den + 1) : ℚ) < (2 ^ 53 : Nat) + 1 := by
        push_cast
        linarith
      have hnat : significandAt num den (binaryExponent num den + 1) < 2 ^ 53 + 1 := by
        exact_mod_cast hlt
      omega
    · intro _
      obtain ⟨hnear, _⟩ := @significandAt_near num den hden (binaryExponent num den)
      have hnat : 2 ^ 53 + 1 ≤ significandAt num den (binaryExponent num den) := by
        rw [twoTo_eq] at hgt
        omega
      have hcast : (2 : ℚ) ^ 53 + 1 ≤ significandAt num den (binaryExponent num den) := by
        exact_mod_cast hnat
      rw [hhalf]
      linarith

end Chosen

/-! ### Claimed fractions -/

section Claims

variable {b : Binary} {bits num den : Nat}

/-- A claimed fraction, in units of the last place, is near the significand. -/
lemma claims_scaled (claims : b.Claims (num / den)) :
    (b.significand : ℚ) - (if b.uneven then 1 / 4 else 1 / 2) ≤ num / den * 2 ^ (-b.exponent) ∧
      (num : ℚ) / den * 2 ^ (-b.exponent) ≤ b.significand + 1 / 2 ∧
      (b.significand % 2 = 1 →
        (b.significand : ℚ) - (if b.uneven then 1 / 4 else 1 / 2) < num / den * 2 ^ (-b.exponent) ∧
          (num : ℚ) / den * 2 ^ (-b.exponent) < b.significand + 1 / 2) := by
  have hpos := two_zpow_pos b.exponent
  have hneg : (2 : ℚ) ^ (-b.exponent) = (2 ^ b.exponent)⁻¹ := zpow_neg 2 b.exponent
  unfold Binary.Claims Binary.low Binary.high at claims
  rw [hneg, ← div_eq_mul_inv, le_div_iff₀ hpos, div_le_iff₀ hpos, lt_div_iff₀ hpos, div_lt_iff₀ hpos]
  split at claims
  · rename_i heven
    refine ⟨claims.1, claims.2, fun hodd => ?_⟩
    omega
  · exact ⟨claims.1.le, claims.2.le, fun _ => claims⟩

/-- The bits of a float are far enough below those of infinity. -/
lemma nearestBits_of_chosen {e : Int} {significand : Nat} (canonical : b.Canonical bits)
    (hchosen : chosenExponent num den = e) (hle : e ≤ 971)
    (hsignificand : significandAt num den e = significand)
    (hbits : (e + 1074).toNat * 2 ^ 52 + significand = bits) : nearestBits num den = bits := by
  have hunfold : nearestBits num den = if 971 < chosenExponent num den then 0x7FF0000000000000
      else min 0x7FF0000000000000 ((chosenExponent num den + 1074).toNat * twoTo 52 +
        significandAt num den (chosenExponent num den)) := rfl
  have hexponent := canonical.exponent_le
  have hlt := canonical.lt
  have hsmall := canonical.bits_eq
  have hlimit : bits ≤ 0x7FF0000000000000 := by omega
  rw [hunfold, hchosen, hsignificand, if_neg (not_lt.mpr hle), twoTo_eq, hbits]
  exact Nat.min_eq_right hlimit

/-- From the unit of a float to the unit of a rounding. -/
lemma scaled_eq (e e' : Int) :
    (num : ℚ) / den * 2 ^ (-e) = num / den * 2 ^ (-e') * 2 ^ (e' - e) := by
  rw [mul_assoc, ← zpow_add₀ (by norm_num)]
  congr 2
  ring

/-- The exponent of the rounding is not larger than that of the float: it would leave the fraction
with too few digits. -/
lemma chosen_le_of_claims {e : Int} (chosen : Chosen num den e) (canonical : b.Canonical bits)
    (claims : b.Claims (num / den)) : e ≤ b.exponent := by
  by_contra hgt
  obtain ⟨_, hhigh, _⟩ := claims_scaled claims
  have hsmall : (2 : ℚ) ^ (b.exponent - e) ≤ 1 / 2 := by
    calc (2 : ℚ) ^ (b.exponent - e) ≤ 2 ^ (-1 : Int) :=
          zpow_le_zpow_right₀ (by norm_num) (by omega)
      _ = 1 / 2 := by norm_num
  have hpos := two_zpow_pos (b.exponent - e)
  have hsignificand : (b.significand : ℚ) + 1 ≤ 2 ^ 53 := by exact_mod_cast canonical.lt
  have hfloor := canonical.exponent_ge
  have hmany := chosen.large (by omega)
  rw [scaled_eq e b.exponent] at hmany
  nlinarith

/-- With the exponent of the float, a claimed fraction is rounded to the significand of the float. -/
lemma nearestBits_of_same (canonical : b.Canonical bits) (hden : 0 < den)
    (claims : b.Claims (num / den)) (hsame : chosenExponent num den = b.exponent) :
    nearestBits num den = bits := by
  obtain ⟨hlow, hhigh, hodd⟩ := claims_scaled claims
  have hmargin : (if b.uneven then 1 / 4 else 1 / 2 : ℚ) ≤ 1 / 2 := by split <;> norm_num
  have hround : significandAt num den b.exponent = b.significand := by
    refine significandAt_eq hden _ ?_ hhigh (fun h => ?_)
    · linarith
    · obtain ⟨hlow', hhigh'⟩ := hodd h
      exact ⟨by linarith, hhigh'⟩
  exact nearestBits_of_chosen canonical hsame canonical.exponent_le hround canonical.bits_eq.symm

/-- A smaller exponent gives the significand too many digits, except for a fraction just below a
power of two: there it is the exponent below, and the rounding carries. -/
lemma nearestBits_of_smaller (chosen : Chosen num den (chosenExponent num den)) (hden : 0 < den)
    (canonical : b.Canonical bits) (claims : b.Claims (num / den))
    (hlt : chosenExponent num den < b.exponent) : nearestBits num den = bits := by
  obtain ⟨hlow, hhigh, _⟩ := claims_scaled claims
  have hge := chosen.ge
  have hle : (significandAt num den (chosenExponent num den) : ℚ) ≤ 2 ^ 53 := by
    exact_mod_cast chosen.significand_le
  obtain ⟨_, hnear⟩ := @significandAt_near num den hden (chosenExponent num den)
  have hscale := @scaled_eq num den (chosenExponent num den) b.exponent
  have hnormal := canonical.normal (by omega)
  rcases Nat.lt_or_ge (2 ^ 52) b.significand with hlarger | hsmaller
  · have heven : b.uneven = false := by
      rw [Bool.eq_false_iff]
      intro h
      have hpower := (canonical.uneven_iff.mp h).2
      omega
    have hcast : (2 : ℚ) ^ 52 + 1 ≤ b.significand := by exact_mod_cast hlarger
    have htwice : (2 : ℚ) ≤ 2 ^ (b.exponent - chosenExponent num den) := by
      calc (2 : ℚ) = 2 ^ (1 : Int) := by norm_num
        _ ≤ 2 ^ (b.exponent - chosenExponent num den) :=
          zpow_le_zpow_right₀ (by norm_num) (by omega)
    rw [heven] at hlow
    simp only [Bool.false_eq_true, if_false] at hlow
    exfalso
    nlinarith
  · have hpower : b.significand = 2 ^ 52 := by omega
    have heven : b.uneven = true := canonical.uneven_iff.mpr ⟨by omega, hpower⟩
    have hcast : (b.significand : ℚ) = 2 ^ 52 := by exact_mod_cast hpower
    rw [heven, hcast, if_pos rfl] at hlow
    have hbelow : chosenExponent num den = b.exponent - 1 := by
      by_contra hne
      have hfour : (4 : ℚ) ≤ 2 ^ (b.exponent - chosenExponent num den) := by
        calc (4 : ℚ) = 2 ^ (2 : Int) := by norm_num
          _ ≤ 2 ^ (b.exponent - chosenExponent num den) :=
            zpow_le_zpow_right₀ (by norm_num) (by omega)
      nlinarith
    have htwo : (2 : ℚ) ^ (b.exponent - chosenExponent num den) = 2 := by
      rw [hbelow, sub_sub_cancel, zpow_one]
    rw [htwo] at hscale
    have hcarry : significandAt num den (chosenExponent num den) = 2 ^ 53 := by
      refine significandAt_eq hden _ ?_ ?_ (fun hodd => absurd hodd (by decide))
      · push_cast
        linarith
      · push_cast
        linarith
    have hbits := canonical.bits_eq
    have hfits := canonical.exponent_le
    exact nearestBits_of_chosen canonical rfl (by omega) hcarry (by omega)

/-- A fraction is rounded to the float that claims it. -/
theorem nearestBits_of_claims (canonical : b.Canonical bits) (hnum : 0 < num) (hden : 0 < den)
    (claims : b.Claims (num / den)) : nearestBits num den = bits := by
  have chosen := chosen_chosenExponent hnum hden
  rcases (chosen_le_of_claims chosen canonical claims).lt_or_eq with hlt | hsame
  · exact nearestBits_of_smaller chosen hden canonical claims hlt
  · exact nearestBits_of_same canonical hden claims hsame

end Claims

/-! ### Integers beyond all floats -/

/-- A number beyond all floats is rounded to the bits of the infinity. -/
lemma nearestBits_of_huge {num : Nat} (h : 1100 ≤ num.log2) :
    nearestBits num 1 = 0x7FF0000000000000 := by
  have hone : Nat.log2 1 = 0 := by decide
  have hguess : 1047 ≤ binaryExponent num 1 := by
    unfold binaryExponent
    rw [hone]
    omega
  unfold nearestBits
  dsimp only
  apply if_pos
  split
  · omega
  · omega

/-- An integer beyond all floats is rounded to an infinity. -/
lemma isInf_ofInt {n : Int} (h : 1100 ≤ n.natAbs.log2) : (ofInt n).isInf = true := by
  have hne : n.natAbs ≠ 0 := by
    intro hzero
    rw [hzero] at h
    exact absurd h (by decide)
  unfold ofInt ofRatio
  rw [if_neg hne, nearestBits_of_huge h]
  cases decide (n < 0) with
  | false => decide +kernel
  | true => decide +kernel

end Teardown.Decimal
