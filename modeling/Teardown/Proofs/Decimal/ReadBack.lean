import Teardown.Proofs.Decimal.Bits
import Teardown.Proofs.Decimal.Nearest
import Teardown.Proofs.Decimal.Shortest

/-!
# Written floats are read back

`ofDigits` gives the float nearest to a decimal number.  Any digits that have the value of the
shortest digits of a float are read back to this float, whatever the layout in which they were
written: a decimal number that a float claims is within the range in which `ofDigits` computes, and
it is rounded to this float.
-/

namespace Teardown.Decimal

/-! ### The range of all floats -/

/-- A power of ten beyond the powers of two of all floats. -/
lemma two_zpow_lt_ten_zpow : (2 : ℚ) ^ (1200 : Int) < 10 ^ (400 : Int) := by
  calc (2 : ℚ) ^ (1200 : Int) = 2 ^ (3 * 400) := zpow_ofNat 2 1200
    _ = (2 ^ 3) ^ 400 := pow_mul 2 3 400
    _ < 10 ^ 400 := pow_lt_pow_left₀ (by norm_num) (by norm_num) (by decide)
    _ = 10 ^ (400 : Int) := (zpow_ofNat 10 400).symm

namespace Binary

variable {b : Binary} {bits : Nat}

/-- The bits of a positive finite float are below those of infinity. -/
lemma Canonical.bits_lt (canonical : b.Canonical bits) : bits < infinityBits := by
  have hbits := canonical.bits_eq
  have hlt := canonical.lt
  have hexponent := canonical.exponent_le
  unfold infinityBits
  omega

/-- Every claimed number is above the tiny numbers that are read as zero. -/
lemma Canonical.tiny_lt (canonical : b.Canonical bits) {q : ℚ} (claims : b.Claims q) :
    (10 : ℚ) ^ (-401 : Int) < q := by
  have hsmallest : (2 : ℚ) ^ (-1074 : Int) ≤ 2 ^ b.exponent :=
    zpow_le_zpow_right₀ (by norm_num) canonical.exponent_ge
  have hone : (1 : ℚ) ≤ b.significand := by exact_mod_cast canonical.pos
  have hlow : 1 / 2 * (2 : ℚ) ^ (-1074 : Int) ≤ b.low := by
    have hpos := two_zpow_pos (-1074)
    unfold low
    apply mul_le_mul _ hsmallest hpos.le _
    all_goals split
    all_goals linarith
  have htiny : (10 : ℚ) ^ (-401 : Int) < 1 / 2 * 2 ^ (-1074 : Int) := by
    calc (10 : ℚ) ^ (-401 : Int) ≤ 10 ^ (-400 : Int) :=
          zpow_le_zpow_right₀ (by norm_num) (by decide)
      _ = (10 ^ (400 : Int))⁻¹ := zpow_neg 10 400
      _ < (2 ^ (1200 : Int))⁻¹ := inv_strictAnti₀ (two_zpow_pos 1200) two_zpow_lt_ten_zpow
      _ = 2 ^ (-1200 : Int) := (zpow_neg 2 1200).symm
      _ ≤ 2 ^ (-1 + -1074 : Int) := zpow_le_zpow_right₀ (by norm_num) (by decide)
      _ = 2 ^ (-1 : Int) * 2 ^ (-1074 : Int) := zpow_add₀ (by norm_num) _ _
      _ = 1 / 2 * 2 ^ (-1074 : Int) := by rw [zpow_neg_one, one_div]
  exact htiny.trans_le (hlow.trans (low_le_of_claims claims))

/-- No claimed number is below its upper end. -/
lemma le_high_of_claims {q : ℚ} (claims : b.Claims q) : q ≤ b.high := by
  unfold Claims at claims
  split at claims
  · exact claims.2
  · exact claims.2.le

/-- Every claimed number is below the huge numbers that are read as infinity. -/
lemma Canonical.lt_huge (canonical : b.Canonical bits) {q : ℚ} (claims : b.Claims q) :
    q < (10 : ℚ) ^ (400 : Int) := by
  have hlargest : (2 : ℚ) ^ b.exponent ≤ 2 ^ (971 : Int) :=
    zpow_le_zpow_right₀ (by norm_num) canonical.exponent_le
  have hpos := two_zpow_pos b.exponent
  have hsignificand : (b.significand : ℚ) + 1 ≤ 2 ^ 53 := by exact_mod_cast canonical.lt
  have hhigh : b.high ≤ 2 ^ 53 * 2 ^ (971 : Int) := by
    unfold high
    apply mul_le_mul _ hlargest hpos.le (by positivity)
    linarith
  have hhuge : (2 : ℚ) ^ 53 * 2 ^ (971 : Int) < 10 ^ (400 : Int) := by
    calc (2 : ℚ) ^ 53 * 2 ^ (971 : Int) = 2 ^ (53 + 971 : Int) := by
          rw [zpow_add₀ (by norm_num)]
          rfl
      _ ≤ 2 ^ (1200 : Int) := zpow_le_zpow_right₀ (by norm_num) (by decide)
      _ < 10 ^ (400 : Int) := two_zpow_lt_ten_zpow
  exact (le_high_of_claims claims).trans_lt (hhigh.trans_lt hhuge)

end Binary

/-! ### Rounding decimal digits -/

/-- The bits of a rounded fraction. -/
lemma toBits_ofRatio {num den bits : Nat} (negative : Bool) (hnum : 0 < num)
    (hnearest : nearestBits num den = bits) (hbits : bits < infinityBits) :
    (ofRatio negative num den).toBits.toNat = bits + if negative then 2 ^ 63 else 0 := by
  have hlimit : bits < 2 ^ 63 := hbits.trans (by decide)
  unfold ofRatio
  rw [if_neg hnum.ne', hnearest]
  cases negative with
  | false =>
    have hsame : bits % 2 ^ 63 ≤ infinityBits := (Nat.mod_le _ _).trans hbits.le
    exact toBits_ofBits (by omega) hsame
  | true => exact toBits_neg_ofBits hbits.le

/-- The digits of a positive number against powers of ten. -/
lemma ten_zpow_length_bounds {c : Nat} (hc : 0 < c) :
    (10 : ℚ) ^ (((Nat.toDigits 10 c).length : Int) - 1) ≤ c ∧
      (c : ℚ) < 10 ^ ((Nat.toDigits 10 c).length : Int) := by
  constructor
  · have hpower := ten_pow_le_of_length hc
    have hlength : 0 < (Nat.toDigits 10 c).length := Nat.length_toDigits_pos
    have hexponent : ((Nat.toDigits 10 c).length : Int) - 1 =
        ((Nat.toDigits 10 c).length - 1 : Nat) := by omega
    rw [hexponent, zpow_natCast]
    exact_mod_cast hpower
  · exact_mod_cast lt_ten_pow_length c

/-- A claimed number is in the range in which the nearest float is computed. -/
lemma range_of_claims {b : Binary} {bits c : Nat} {e : Int} (canonical : b.Canonical bits)
    (hc : 0 < c) (claims : b.Claims (c * 10 ^ e)) :
    -400 ≤ ((Nat.toDigits 10 c).length : Int) + e ∧
      ((Nat.toDigits 10 c).length : Int) + e ≤ 400 := by
  have hten := ten_zpow_pos e
  obtain ⟨hle, hlt⟩ := ten_zpow_length_bounds hc
  constructor
  · by_contra hmagnitude
    have htiny := canonical.tiny_lt claims
    have hsum : (c : ℚ) * 10 ^ e < 10 ^ (-401 : Int) := by
      calc (c : ℚ) * 10 ^ e < 10 ^ ((Nat.toDigits 10 c).length : Int) * 10 ^ e :=
            mul_lt_mul_of_pos_right hlt hten
        _ = 10 ^ (((Nat.toDigits 10 c).length : Int) + e) := (zpow_add₀ (by norm_num) _ _).symm
        _ ≤ 10 ^ (-401 : Int) := zpow_le_zpow_right₀ (by norm_num) (by omega)
    exact lt_asymm htiny hsum
  · by_contra hmagnitude
    have hhuge := canonical.lt_huge claims
    have hsum : (10 : ℚ) ^ (400 : Int) ≤ c * 10 ^ e := by
      calc (10 : ℚ) ^ (400 : Int) ≤ 10 ^ (((Nat.toDigits 10 c).length : Int) - 1 + e) :=
            zpow_le_zpow_right₀ (by norm_num) (by omega)
        _ = 10 ^ (((Nat.toDigits 10 c).length : Int) - 1) * 10 ^ e := zpow_add₀ (by norm_num) _ _
        _ ≤ c * 10 ^ e := mul_le_mul_of_nonneg_right hle hten.le
    exact not_lt.mpr hsum hhuge

/-- The bits of the float that is read from digits. -/
lemma toBits_ofDigits {b : Binary} {bits c : Nat} {e : Int} (negative : Bool)
    (canonical : b.Canonical bits) (hc : 0 < c) (claims : b.Claims (c * 10 ^ e)) :
    (ofDigits negative c e).toBits.toNat = bits + if negative then 2 ^ 63 else 0 := by
  obtain ⟨hlow, hhigh⟩ := range_of_claims canonical hc claims
  have hskip : ¬ (decide (c = 0) || decide (((Nat.toDigits 10 c).length : Int) + e < -400)) =
      true := by
    rw [Bool.or_eq_true, decide_eq_true_eq, decide_eq_true_eq]
    exact fun h => h.elim hc.ne' (not_lt.mpr hlow)
  unfold ofDigits
  dsimp only
  rw [if_neg hskip, if_neg (not_lt.mpr hhigh)]
  rw [ten_zpow_eq e] at claims
  split
  · have hzero : (-e).toNat = 0 := by omega
    rw [hzero, tenTo_zero] at claims
    have hnum : 0 < c * tenTo e.toNat := Nat.mul_pos hc (tenTo_pos _)
    apply toBits_ofRatio negative hnum _ canonical.bits_lt
    apply nearestBits_of_claims canonical hnum Nat.one_pos
    push_cast
    simpa using claims
  · have hzero : e.toNat = 0 := by omega
    rw [hzero, tenTo_zero] at claims
    apply toBits_ofRatio negative hc _ canonical.bits_lt
    apply nearestBits_of_claims canonical hc (tenTo_pos _)
    simpa [div_eq_mul_inv] using claims

/-! ### Reading back -/

/-- The parts of the bits of a float decide what it is. -/
lemma ofFloat_eq (x : Float) : ∃ magnitude negative,
    x.toBits.toNat = magnitude + (if negative then 2 ^ 63 else 0) ∧
    Reading.ofFloat x =
      if infinityBits < magnitude then .notANumber
      else if magnitude = infinityBits then .infinite negative
      else if magnitude = 0 then .zero negative
      else .finite negative (Binary.ofBits magnitude).shortest := by
  have hbound : x.toBits.toNat < 2 ^ 64 := x.toBits.toNat_lt
  refine ⟨x.toBits.toNat % 2 ^ 63, decide (2 ^ 63 ≤ x.toBits.toNat), ?_, rfl⟩
  split
  · rename_i hnegative
    have hsign : 2 ^ 63 ≤ x.toBits.toNat := of_decide_eq_true hnegative
    change x.toBits.toNat = x.toBits.toNat % 2 ^ 63 + 2 ^ 63
    omega
  · rename_i hpositive
    have hsign : ¬ 2 ^ 63 ≤ x.toBits.toNat := fun h => hpositive (decide_eq_true h)
    omega

/-- A float with digits is a positive number, up to its sign. -/
lemma exists_canonical {x : Float} {negative : Bool} {d : Digits}
    (hreading : Reading.ofFloat x = .finite negative d) : ∃ b bits, Binary.Canonical b bits ∧
      d = b.shortest ∧ x.toBits.toNat = bits + if negative then 2 ^ 63 else 0 := by
  obtain ⟨bits, sign, hbits, heq⟩ := ofFloat_eq x
  rw [heq] at hreading
  split at hreading
  · cases hreading
  split at hreading
  · cases hreading
  split at hreading
  · cases hreading
  rename_i hnumber hfinite hzero
  cases hreading
  have canonical := Binary.ofBits_canonical (Nat.pos_of_ne_zero hzero)
    (lt_of_le_of_ne (not_lt.mp hnumber) hfinite)
  exact ⟨_, _, canonical, rfl, hbits⟩

/-- The digits of a float are not zero. -/
lemma coefficient_pos_of_finite {x : Float} {negative : Bool} {d : Digits}
    (hreading : Reading.ofFloat x = .finite negative d) : 0 < d.coefficient := by
  obtain ⟨b, bits, canonical, rfl, -⟩ := exists_canonical hreading
  exact canonical.shortest_pos

/-- Digits with the value of the digits of a float are read back to this float. -/
theorem ofDigits_of_finite {x : Float} {negative : Bool} {d : Digits} {c : Nat} {e : Int}
    (hreading : Reading.ofFloat x = .finite negative d) (hvalue : (c : ℚ) * 10 ^ e = d.value) :
    ofDigits negative c e = x := by
  obtain ⟨b, bits, canonical, rfl, hbits⟩ := exists_canonical hreading
  have claims : b.Claims (c * 10 ^ e) := by
    rw [hvalue]
    exact canonical.claims_shortest
  have hc : 0 < c := by
    have hpos := canonical.low_pos.trans_le (Binary.low_le_of_claims claims)
    exact_mod_cast (mul_pos_iff_of_pos_right (ten_zpow_pos e)).mp hpos
  apply eq_of_toBits
  rw [toBits_ofDigits negative canonical hc claims, hbits]

/-- A zero is read back with its sign. -/
theorem ofDigits_of_zero {x : Float} {negative : Bool} (e : Int)
    (hreading : Reading.ofFloat x = .zero negative) : ofDigits negative 0 e = x := by
  obtain ⟨bits, sign, hbits, heq⟩ := ofFloat_eq x
  rw [heq] at hreading
  split at hreading
  · cases hreading
  split at hreading
  · cases hreading
  split at hreading
  case isFalse => cases hreading
  rename_i hzero
  cases hreading
  have hread : ofDigits negative 0 e = ofRatio negative 0 1 := by simp [ofDigits]
  apply eq_of_toBits
  rw [hread, hbits, hzero]
  cases negative with
  | false => decide
  | true => decide

end Teardown.Decimal
