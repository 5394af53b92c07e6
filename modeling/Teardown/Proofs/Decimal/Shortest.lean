import Teardown.Proofs.Decimal.Value

/-!
# The digits of a float are claimed by it

`shortest` tries coarser grids of decimal numbers before finer ones.  A grid that is finer than the
interval of the float has a point in it, and after seventeen digits every grid is: `claims_shortest`
says that the digits that are found make a number that the float claims.
-/

namespace Teardown.Decimal

/-- The value of decimal digits. -/
def Digits.value (d : Digits) : ℚ :=
  d.coefficient * 10 ^ d.exponent

/-- Moving zeros into the exponent keeps the value. -/
lemma Digits.value_normalize (fuel coefficient : Nat) (exponent : Int) :
    (Digits.normalize fuel coefficient exponent).value = coefficient * 10 ^ exponent := by
  induction fuel generalizing coefficient exponent with
  | zero => rfl
  | succ fuel ih =>
    unfold Digits.normalize
    split
    · rename_i hzero
      have hten : coefficient = coefficient / 10 * 10 := by omega
      rw [ih, zpow_add_one₀ (by norm_num)]
      nth_rewrite 2 [hten]
      push_cast
      ring
    · rfl

/-! ### The leading digit -/

/-- A number is not below the power of ten of its length. -/
lemma ten_pow_le_of_length {n : Nat} (hn : 0 < n) :
    10 ^ ((Nat.toDigits 10 n).length - 1) ≤ n := by
  by_cases hone : (Nat.toDigits 10 n).length ≤ 1
  · have hzero : (Nat.toDigits 10 n).length - 1 = 0 := by omega
    rw [hzero]
    exact hn
  · have hiff := @Nat.length_toDigits_le_iff 10 n ((Nat.toDigits 10 n).length - 1) (by decide)
      (by omega)
    by_contra hlt
    have hshort := hiff.mpr (not_le.mp hlt)
    omega

/-- A number is below the next power of ten. -/
lemma lt_ten_pow_length (n : Nat) : n < 10 ^ (Nat.toDigits 10 n).length :=
  (Nat.length_toDigits_le_iff (by decide) Nat.length_toDigits_pos).mp le_rfl

/-- A fraction is not below the power of ten of its leading digit. -/
lemma ten_zpow_leadingExponent_le {num den : Nat} (hnum : 0 < num) (hden : 0 < den) :
    (10 : ℚ) ^ leadingExponent num den ≤ num / den := by
  have hden' : (0 : ℚ) < den := by exact_mod_cast hden
  have hnum' : (0 : ℚ) < num := by exact_mod_cast hnum
  unfold leadingExponent
  split
  · rename_i hle
    have hpower := ten_pow_le_of_length (Nat.div_pos hle hden)
    have hlength : 0 < (Nat.toDigits 10 (num / den)).length := Nat.length_toDigits_pos
    obtain ⟨k, hk⟩ : ∃ k, (Nat.toDigits 10 (num / den)).length = k + 1 :=
      ⟨_, (Nat.succ_pred_eq_of_pos hlength).symm⟩
    rw [hk, Nat.add_sub_cancel] at hpower
    have hexponent : (((Nat.toDigits 10 (num / den)).length : Int) - 1) = (k : Int) := by omega
    have hmul : 10 ^ k * den ≤ num :=
      (Nat.mul_le_mul_right den hpower).trans (Nat.div_mul_le_self num den)
    rw [hexponent, zpow_natCast, le_div_iff₀ hden']
    exact_mod_cast hmul
  · dsimp only
    split
    · rename_i hexact
      have hlength : 0 < (Nat.toDigits 10 (den / num)).length := Nat.length_toDigits_pos
      obtain ⟨k, hk⟩ : ∃ k, (Nat.toDigits 10 (den / num)).length = k + 1 :=
        ⟨_, (Nat.succ_pred_eq_of_pos hlength).symm⟩
      rw [hk, Nat.add_sub_cancel, tenTo_eq] at hexact
      have hexponent : 1 - ((Nat.toDigits 10 (den / num)).length : Int) = -(k : Int) := by omega
      rw [hexponent, zpow_neg, zpow_natCast, hexact]
      push_cast
      rw [div_mul_cancel_left₀ hnum'.ne']
    · have hquotient := lt_ten_pow_length (den / num)
      have hbound : den < num * 10 ^ (Nat.toDigits 10 (den / num)).length :=
        (Nat.div_lt_iff_lt_mul hnum).mp hquotient |>.trans_eq (Nat.mul_comm _ _)
      have hbound' : (den : ℚ) ≤ num * 10 ^ (Nat.toDigits 10 (den / num)).length := by
        exact_mod_cast hbound.le
      rw [zpow_neg, zpow_natCast, le_div_iff₀ hden', inv_mul_le_iff₀ (by positivity)]
      linarith

/-! ### Points of a grid -/

namespace Binary

variable {b : Binary} {bits : Nat}

/-- The numbers between the ends are claimed, also by a float with an odd significand. -/
lemma claims_of_between {q : ℚ} (hlow : b.low < q) (hhigh : q < b.high) : b.Claims q := by
  unfold Claims
  split
  · exact ⟨hlow.le, hhigh.le⟩
  · exact ⟨hlow, hhigh⟩

/-- No claimed number is below the lower end. -/
lemma low_le_of_claims {q : ℚ} (claims : b.Claims q) : b.low ≤ q := by
  unfold Claims at claims
  split at claims
  · exact claims.1
  · exact claims.1.le

/-- A float lies above its lower end. -/
lemma low_lt_value : b.low < b.value := by
  unfold low value
  have hpos := two_zpow_pos b.exponent
  split
  · nlinarith
  · nlinarith

/-- A float lies below its upper end. -/
lemma value_lt_high : b.value < b.high := by
  unfold high value
  have hpos := two_zpow_pos b.exponent
  nlinarith

/-- The lower end of a positive float is positive. -/
lemma Canonical.low_pos (canonical : b.Canonical bits) : 0 < b.low := by
  have hone : (1 : ℚ) ≤ b.significand := by exact_mod_cast canonical.pos
  have hpos := two_zpow_pos b.exponent
  unfold low
  apply mul_pos _ hpos
  split
  · linarith
  · linarith

/-- The test of a point of a grid. -/
lemma holds_grid_iff (hpos : 0 < b.significand) (place : Int) (n : Nat) :
    b.interval.holds (n * tenTo place.toNat) (tenTo (-place).toNat) = true ↔
      b.Claims (n * 10 ^ place) := by
  rw [interval_holds_iff b hpos (tenTo_pos _), ten_zpow_eq place]
  push_cast
  rw [mul_div_assoc]

/-- The value lies between the point below it and the next one. -/
lemma grid_bounds (place : Int) :
    let below := b.interval.value * tenTo (-place).toNat /
      (b.interval.denominator * tenTo place.toNat)
    (below : ℚ) * 10 ^ place ≤ b.value ∧ b.value < (below + 1 : Nat) * 10 ^ place := by
  intro below
  have hdenominator : (0 : ℚ) < b.interval.denominator := by
    exact_mod_cast interval_denominator_pos b
  have hup : (0 : ℚ) < tenTo place.toNat := by exact_mod_cast tenTo_pos _
  have hdown : (0 : ℚ) < tenTo (-place).toNat := by exact_mod_cast tenTo_pos _
  have hunit : 0 < b.interval.denominator * tenTo place.toNat :=
    Nat.mul_pos (interval_denominator_pos b) (tenTo_pos _)
  have hbelow : below * (b.interval.denominator * tenTo place.toNat) ≤
      b.interval.value * tenTo (-place).toNat := Nat.div_mul_le_self _ _
  have habove : b.interval.value * tenTo (-place).toNat <
      (below + 1) * (b.interval.denominator * tenTo place.toNat) :=
    (Nat.div_lt_iff_lt_mul hunit).mp (Nat.lt_succ_self below)
  rw [← interval_value b, ten_zpow_eq place]
  constructor
  · rw [mul_div_assoc', div_le_div_iff₀ hdown hdenominator]
    have hcast : (below : ℚ) * (b.interval.denominator * tenTo place.toNat) ≤
        b.interval.value * tenTo (-place).toNat := by exact_mod_cast hbelow
    linarith
  · rw [mul_div_assoc', div_lt_div_iff₀ hdenominator hdown]
    have hcast : (b.interval.value : ℚ) * tenTo (-place).toNat <
        (below + 1 : Nat) * (b.interval.denominator * tenTo place.toNat) := by
      exact_mod_cast habove
    linarith

/-- A point of a grid that is found is claimed. -/
lemma claims_of_gridPoint (hpos : 0 < b.significand) {place : Int} {n : Nat}
    (hfound : b.interval.gridPoint? place = some n) : b.Claims (n * 10 ^ place) := by
  rw [← holds_grid_iff hpos]
  unfold Interval.gridPoint? at hfound
  dsimp only at hfound
  set below := b.interval.value * tenTo (-place).toNat /
    (b.interval.denominator * tenTo place.toNat)
  split at hfound
  case h_1 => cases hfound
  case h_2 hbelow _ =>
    rw [← Option.some.inj hfound]
    exact hbelow
  case h_3 _ habove =>
    rw [← Option.some.inj hfound]
    exact habove
  case h_4 hbelow habove =>
    have hneighbour : n = below ∨ n = below + 1 := by
      split at hfound
      · exact .inl (Option.some.inj hfound).symm
      · split at hfound
        · exact .inr (Option.some.inj hfound).symm
        · have heven := Option.some.inj hfound
          omega
    rcases hneighbour with h | h
    · rw [h]
      exact hbelow
    · rw [h]
      exact habove

/-- A grid that is finer than the interval has a point in it. -/
lemma gridPoint_isSome (hpos : 0 < b.significand) {place : Int}
    (hfine : (10 : ℚ) ^ place < b.high - b.low) : b.interval.gridPoint? place ≠ none := by
  intro hmissed
  unfold Interval.gridPoint? at hmissed
  dsimp only at hmissed
  have hbounds := @grid_bounds b place
  dsimp only at hbounds
  set below := b.interval.value * tenTo (-place).toNat /
    (b.interval.denominator * tenTo place.toNat)
  obtain ⟨hbelow, habove⟩ := hbounds
  split at hmissed
  case h_1 hfirst hsecond =>
    -- Two neighbouring points of the grid enclose the whole interval.
    have hfirst' : ¬ b.Claims (below * 10 ^ place) := by
      rw [← holds_grid_iff hpos, hfirst]
      exact Bool.false_ne_true
    have hsecond' : ¬ b.Claims ((below + 1 : Nat) * 10 ^ place) := by
      rw [← holds_grid_iff hpos, hsecond]
      exact Bool.false_ne_true
    have hlow : (below : ℚ) * 10 ^ place ≤ b.low := by
      by_contra h
      exact hfirst' (claims_of_between (not_le.mp h) (hbelow.trans_lt value_lt_high))
    have hhigh : b.high ≤ (below + 1 : Nat) * 10 ^ place := by
      by_contra h
      exact hsecond' (claims_of_between (low_lt_value.trans habove) (not_le.mp h))
    push_cast at hhigh
    linarith
  case h_2 => cases hmissed
  case h_3 => cases hmissed
  case h_4 =>
    split at hmissed
    · cases hmissed
    · split at hmissed
      · cases hmissed
      · cases hmissed

/-! ### Seventeen digits -/

/-- Seventeen digits are finer than the interval of every float. -/
lemma Canonical.fine (canonical : b.Canonical bits) {leading : Int}
    (hleading : (10 : ℚ) ^ leading ≤ b.value) :
    (10 : ℚ) ^ (leading - 16) < b.high - b.low := by
  have hpos := two_zpow_pos b.exponent
  have hsplit : (10 : ℚ) ^ leading = 10 ^ (leading - 16) * 10 ^ 16 := by
    rw [← zpow_natCast, ← zpow_add₀ (by norm_num)]
    congr 1
    omega
  have hlt : (b.significand : ℚ) < 2 ^ 53 := by exact_mod_cast canonical.lt
  unfold value at hleading
  unfold high low
  split
  · rename_i huneven
    have hsignificand : (b.significand : ℚ) = 2 ^ 52 := by
      exact_mod_cast (canonical.uneven_iff.mp huneven).2
    rw [hsignificand] at hleading ⊢
    nlinarith
  · nlinarith

/-- The search ends with digits that are claimed, if its last grid is fine enough. -/
lemma claims_search (hpos : 0 < b.significand) {leading : Int}
    (hfine : (10 : ℚ) ^ (leading - 16) < b.high - b.low) {left count : Nat}
    (hcount : left + count = 17) (hleft : 0 < left) :
    b.Claims (b.interval.search leading left count).value := by
  induction left generalizing count with
  | zero => exact absurd hleft (lt_irrefl 0)
  | succ left ih =>
    unfold Interval.search
    dsimp only
    split
    · rename_i n hfound
      rw [Digits.value_normalize]
      exact claims_of_gridPoint hpos hfound
    · rename_i hmissed
      rcases Nat.eq_zero_or_pos left with hlast | hmore
      · have hplace : leading - (count : Int) = leading - 16 := by omega
        rw [hplace] at hmissed
        exact absurd hmissed (gridPoint_isSome hpos hfine)
      · exact ih (by omega) hmore

/-- The shortest digits of a float make a number that the float claims. -/
theorem Canonical.claims_shortest (canonical : b.Canonical bits) : b.Claims b.shortest.value := by
  have hvalue : 0 < b.interval.value := by
    have hpos : (0 : ℚ) < b.interval.value / b.interval.denominator := by
      rw [interval_value]
      exact canonical.value_pos
    have hdenominator : (0 : ℚ) < b.interval.denominator := by
      exact_mod_cast interval_denominator_pos b
    exact_mod_cast (div_pos_iff_of_pos_right hdenominator).mp hpos
  have hleading := ten_zpow_leadingExponent_le hvalue (interval_denominator_pos b)
  rw [interval_value] at hleading
  exact claims_search canonical.pos (canonical.fine hleading) rfl (by decide)

/-- The shortest digits of a float are not zero. -/
lemma Canonical.shortest_pos (canonical : b.Canonical bits) : 0 < b.shortest.coefficient := by
  have hpos : 0 < b.shortest.value :=
    canonical.low_pos.trans_le (low_le_of_claims canonical.claims_shortest)
  unfold Digits.value at hpos
  exact_mod_cast (mul_pos_iff_of_pos_right (ten_zpow_pos _)).mp hpos

end Binary

end Teardown.Decimal
