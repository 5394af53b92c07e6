import Mathlib
import Teardown.Decimal.Power

/-!
# Floats and their bits

A float is determined by its 64 bits: the highest one is the sign, and the lower ones, read as a
number, are its magnitude.  The magnitudes up to `infinityBits` belong to numbers, in their order,
and the magnitude `infinityBits` itself to the infinities.  All other magnitudes are not numbers.

The lemmas of this file translate what is done with floats into what is done with their bits, so
that other proofs need not know how a float is packed.
-/

namespace Teardown.Decimal

open Float.Model Float.Model.UnpackedFloat

/-- The magnitude of the infinities. -/
def infinityBits : Nat := 0x7FF0000000000000

/-! ### The parts of 64 bits -/

section Parts

variable (b : BitVec 64)

lemma toNat_unpackMantissa : (@unpackMantissa .binary64 b).toNat = b.toNat % 2 ^ 52 := by
  rw [unpackMantissa_def, BitVec.extractLsb'_toNat]
  simp

lemma toNat_unpackExponent : (@unpackExponent .binary64 b).toNat = b.toNat / 2 ^ 52 % 2 ^ 11 := by
  rw [unpackExponent_def, BitVec.extractLsb'_toNat, Nat.shiftRight_eq_div_pow]

lemma toNat_unpackSign : (@unpackSign .binary64 b).toNat = b.toNat / 2 ^ 63 := by
  rw [unpackSign_def, BitVec.extractLsb'_toNat, Nat.shiftRight_eq_div_pow]
  have hb : b.toNat < 2 ^ 64 := b.isLt
  have hsign : b.toNat / 2 ^ 63 < 2 := by omega
  exact Nat.mod_eq_of_lt hsign

/-- All bits of the exponent are set. -/
lemma unpackExponent_eq_ones :
    @unpackExponent .binary64 b = -1#11 ↔ b.toNat / 2 ^ 52 % 2 ^ 11 = 2047 := by
  rw [← BitVec.toNat_inj, toNat_unpackExponent]
  rfl

lemma unpackExponent_eq_zero :
    @unpackExponent .binary64 b = 0#11 ↔ b.toNat / 2 ^ 52 % 2 ^ 11 = 0 := by
  rw [← BitVec.toNat_inj, toNat_unpackExponent]
  rfl

lemma unpackMantissa_eq_zero :
    @unpackMantissa .binary64 b = 0#52 ↔ b.toNat % 2 ^ 52 = 0 := by
  rw [← BitVec.toNat_inj, toNat_unpackMantissa]
  rfl

lemma unpackSign_eq_zero : @unpackSign .binary64 b = 0#1 ↔ b.toNat < 2 ^ 63 := by
  rw [← BitVec.toNat_inj, toNat_unpackSign]
  have hzero : (0#1).toNat = 0 := rfl
  omega

/-- Bits that stand for a number do not encode the absence of one. -/
lemma isNaNBits_eq_false (h : b.toNat % 2 ^ 63 ≤ infinityBits) :
    @isNaNBits .binary64 b = false := by
  unfold isNaNBits
  rw [decide_eq_false_iff_not, unpackExponent_eq_ones]
  rintro ⟨hexponent, hmantissa⟩
  have hne : b.toNat % 2 ^ 52 ≠ 0 := fun hzero =>
    hmantissa ((unpackMantissa_eq_zero b).mpr hzero)
  unfold infinityBits at h
  omega

end Parts

/-! ### Floats by their bits -/

/-- Floats with the same bits are the same. -/
lemma eq_of_toBits {x y : Float} (h : x.toBits.toNat = y.toBits.toNat) : x = y :=
  Float.toBits_inj.mp (UInt64.toNat_inj.mp h)

/-- The bits of a number are packed as they were unpacked. -/
lemma pack_unpack_of_number {b : BitVec 64} (h : b.toNat % 2 ^ 63 ≤ infinityBits) :
    UnpackedFloat.pack .binary64 (UnpackedFloat.unpack .binary64 b) = b := by
  have hpack := @pack_unpack .binary64 b (by decide)
  rw [isNaNBits_eq_false b h] at hpack
  exact hpack

lemma toNat_toBitVec_ofNat {n : Nat} (hn : n < 2 ^ 64) : (UInt64.ofNat n).toBitVec.toNat = n := by
  simp only [UInt64.toBitVec_ofNat', BitVec.toNat_ofNat]
  exact Nat.mod_eq_of_lt hn

/-- The bits of a number that is given by its bits. -/
lemma toBits_ofBits {n : Nat} (hn : n < 2 ^ 64) (h : n % 2 ^ 63 ≤ infinityBits) :
    (Float.ofBits (UInt64.ofNat n)).toBits.toNat = n := by
  have hbits := toNat_toBitVec_ofNat hn
  have htoBits : (Float.ofBits (UInt64.ofNat n)).toBits.toBitVec =
      UnpackedFloat.pack .binary64 (UnpackedFloat.unpack .binary64 (UInt64.ofNat n).toBitVec) := rfl
  rw [← UInt64.toNat_toBitVec, htoBits, pack_unpack_of_number (hbits.symm ▸ h), hbits]

/-- Bits without a sign are unpacked to something positive. -/
lemma ofBitVec_unpackSign_positive {b : BitVec 64} (h : b.toNat < 2 ^ 63) :
    Sign.ofBitVec (@unpackSign .binary64 b) = .positive :=
  if_pos ((unpackSign_eq_zero b).mpr h)

/-- Bits with a sign are unpacked to something negative. -/
lemma ofBitVec_unpackSign_negative {b : BitVec 64} (h : 2 ^ 63 ≤ b.toNat) :
    Sign.ofBitVec (@unpackSign .binary64 b) = .negative :=
  if_neg fun hzero => absurd ((unpackSign_eq_zero b).mp hzero) (not_lt.mpr h)

/-- The sign set, and everything else as it is. -/
lemma unpack_of_sign {b c : BitVec 64} (hb : b.toNat < 2 ^ 63) (hc : c.toNat = b.toNat + 2 ^ 63) :
    UnpackedFloat.unpack .binary64 c = (UnpackedFloat.unpack .binary64 b).neg := by
  have hmantissa : @unpackMantissa .binary64 c = @unpackMantissa .binary64 b := by
    rw [← BitVec.toNat_inj, toNat_unpackMantissa, toNat_unpackMantissa]
    omega
  have hexponent : @unpackExponent .binary64 c = @unpackExponent .binary64 b := by
    rw [← BitVec.toNat_inj, toNat_unpackExponent, toNat_unpackExponent]
    omega
  have hsign := ofBitVec_unpackSign_positive hb
  have hsign' := ofBitVec_unpackSign_negative (b := c) (by omega)
  simp only [UnpackedFloat.unpack, hmantissa, hexponent, hsign, hsign']
  split
  · split <;> rfl
  · split
    · split <;> rfl
    · rfl

/-- Negation sets the sign. -/
lemma toBits_neg_ofBits {n : Nat} (h : n ≤ infinityBits) :
    (-Float.ofBits (UInt64.ofNat n)).toBits.toNat = n + 2 ^ 63 := by
  have hn : n < 2 ^ 63 := h.trans_lt (by decide)
  have hb := toNat_toBitVec_ofNat (n := n) (by omega)
  have hc := toNat_toBitVec_ofNat (n := n + 2 ^ 63) (by omega)
  -- The negated float is packed from what the bits with the sign are unpacked to.
  have htoBits : (-Float.ofBits (UInt64.ofNat n)).toBits.toBitVec =
      UnpackedFloat.pack .binary64 (UnpackedFloat.unpack .binary64 (UnpackedFloat.pack .binary64
        (UnpackedFloat.unpack .binary64 (UInt64.ofNat n).toBitVec))).neg := rfl
  have hunpack := unpack_of_sign (hb.symm ▸ hn) (hc.trans (congrArg (· + 2 ^ 63) hb.symm))
  have hlimit : (UInt64.ofNat n).toBitVec.toNat % 2 ^ 63 ≤ infinityBits := by
    rw [hb, Nat.mod_eq_of_lt hn]
    exact h
  have hlimit' : (UInt64.ofNat (n + 2 ^ 63)).toBitVec.toNat % 2 ^ 63 ≤ infinityBits := by
    rw [hc, Nat.add_mod_right, Nat.mod_eq_of_lt hn]
    exact h
  rw [← UInt64.toNat_toBitVec, htoBits, pack_unpack_of_number hlimit, ← hunpack,
    pack_unpack_of_number hlimit', hc]

/-- What is unpacked is above zero if it has no sign and is a number, but not zero. -/
lemma zero_lt_unpack (b : BitVec 64) :
    (UnpackedFloat.zero .positive).lt (UnpackedFloat.unpack .binary64 b) = true ↔
      0 < b.toNat ∧ b.toNat ≤ infinityBits := by
  unfold infinityBits
  rcases lt_or_ge b.toNat (2 ^ 63) with hsign | hsign
  · simp only [UnpackedFloat.unpack, ofBitVec_unpackSign_positive hsign]
    split
    · rename_i hones
      have hexponent := (unpackExponent_eq_ones b).mp hones
      split
      · rename_i hzero
        have hmantissa := (unpackMantissa_eq_zero b).mp hzero
        simp only [UnpackedFloat.lt, UnpackedFloat.compare, beq_self_eq_true, true_iff]
        omega
      · rename_i hzero
        have hmantissa := mt (unpackMantissa_eq_zero b).mpr hzero
        simp only [UnpackedFloat.lt, UnpackedFloat.compare, Option.none_beq_some, Bool.false_eq_true,
          false_iff]
        omega
    · rename_i hones
      have hexponent := mt (unpackExponent_eq_ones b).mpr hones
      split
      · split
        · rename_i hexp hzero
          have hexponent := (unpackExponent_eq_zero b).mp hexp
          have hmantissa := (unpackMantissa_eq_zero b).mp hzero
          simp [UnpackedFloat.lt, UnpackedFloat.compare]
          omega
        · rename_i hexp hzero
          have hmantissa := mt (unpackMantissa_eq_zero b).mpr hzero
          simp only [UnpackedFloat.lt, UnpackedFloat.compare, beq_self_eq_true, true_iff]
          omega
      · rename_i hexp
        have hexponent := mt (unpackExponent_eq_zero b).mpr hexp
        simp only [UnpackedFloat.lt, UnpackedFloat.compare, beq_self_eq_true, true_iff]
        omega
  · simp only [UnpackedFloat.unpack, ofBitVec_unpackSign_negative hsign]
    have hlarge : ¬ (0 < b.toNat ∧ b.toNat ≤ 0x7FF0000000000000) := by omega
    simp only [hlarge, iff_false, Bool.not_eq_true]
    split
    · split <;> rfl
    · split
      · split <;> rfl
      · rfl

/-- A float is above zero if it has no sign and is a number, but not zero. -/
lemma zero_lt_iff (x : Float) :
    0.0 < x ↔ 0 < x.toBits.toNat ∧ x.toBits.toNat ≤ infinityBits := by
  have hzero : (0.0 : Float).toModel.unpack = .zero .positive := by
    rfl
  have hlt : 0.0 < x ↔ (0.0 : Float).toModel.unpack.lt x.toModel.unpack = true :=
    decide_eq_true_iff
  rw [hlt, hzero]
  exact zero_lt_unpack x.toBits.toBitVec

/-- A float above zero is unpacked to a positive number or to the positive infinity. -/
lemma unpack_of_pos {x : Float} (h : 0.0 < x) :
    x.toModel.unpack = .infinity .positive ∨ ∃ mantissa exponent hmantissa,
      x.toModel.unpack = .finite .positive mantissa exponent hmantissa := by
  have hzero : (0.0 : Float).toModel.unpack = .zero .positive := rfl
  have hlt : (0.0 : Float).toModel.unpack.lt x.toModel.unpack = true := of_decide_eq_true h
  rw [hzero] at hlt
  cases hunpacked : x.toModel.unpack with
  | notANumber | zero =>
    rw [hunpacked] at hlt
    exact absurd hlt Bool.false_ne_true
  | infinity sign =>
    rw [hunpacked] at hlt
    cases sign with
    | positive => exact .inl rfl
    | negative => exact absurd hlt (by decide)
  | finite sign mantissa exponent hmantissa =>
    rw [hunpacked] at hlt
    cases sign with
    | positive => exact .inr ⟨mantissa, exponent, hmantissa, rfl⟩
    | negative => exact absurd hlt Bool.false_ne_true

/-- A float above zero is neither zero nor below it. -/
lemma not_le_zero {x : Float} (h : 0.0 < x) : ¬ x ≤ 0.0 := by
  have hzero : (0.0 : Float).toModel.unpack = .zero .positive := rfl
  have hle : x ≤ 0.0 ↔ x.toModel.unpack.le (0.0 : Float).toModel.unpack = true :=
    decide_eq_true_iff
  rw [hle, hzero]
  obtain hx | ⟨_, _, _, hx⟩ := unpack_of_pos h
  · rw [hx]
    decide
  · rw [hx]
    exact Bool.false_ne_true

/-- A float that is at least zero is not below it. -/
lemma not_lt_zero {x : Float} (h : 0.0 ≤ x) : ¬ x < 0.0 := by
  have hzero : (0.0 : Float).toModel.unpack = .zero .positive := rfl
  have hle : (0.0 : Float).toModel.unpack.le x.toModel.unpack = true := of_decide_eq_true h
  have hlt : x < 0.0 ↔ x.toModel.unpack.lt (0.0 : Float).toModel.unpack = true :=
    decide_eq_true_iff
  rw [hzero] at hlt hle
  rw [hlt]
  cases hunpacked : x.toModel.unpack with
  | notANumber => exact Bool.false_ne_true
  | infinity sign =>
    rw [hunpacked] at hle
    cases sign with
    | positive => decide
    | negative => exact absurd hle (by decide)
  | zero sign => exact Bool.false_ne_true
  | finite sign mantissa exponent _ =>
    rw [hunpacked] at hle
    cases sign with
    | positive => exact Bool.false_ne_true
    | negative => exact absurd hle Bool.false_ne_true

/-- Of two floats above zero, the first is at most the second unless the second is below it. -/
lemma le_iff_not_lt {x y : Float} (hx : 0.0 < x) (hy : 0.0 < y) : x ≤ y ↔ ¬ y < x := by
  have hle : x ≤ y ↔ x.toModel.unpack.le y.toModel.unpack = true := decide_eq_true_iff
  have hlt : y < x ↔ y.toModel.unpack.lt x.toModel.unpack = true := decide_eq_true_iff
  rw [hle, hlt]
  rcases unpack_of_pos hx with hx | ⟨m, e, _, hx⟩ <;> rcases unpack_of_pos hy with hy | ⟨n, f, _, hy⟩
  · rw [hx, hy]
    decide
  · rw [hx, hy]
    simp [UnpackedFloat.le, UnpackedFloat.lt, UnpackedFloat.compare]
  · rw [hx, hy]
    simp [UnpackedFloat.le, UnpackedFloat.lt, UnpackedFloat.compare]
  · -- Two numbers are compared by their exponents and then by their mantissas.
    have hswap : (compare f e).then (compare n m) = ((compare e f).then (compare m n)).swap := by
      rw [Ordering.swap_then, ← Std.OrientedOrd.eq_swap, ← Std.OrientedOrd.eq_swap]
    rw [hx, hy]
    simp only [UnpackedFloat.le, UnpackedFloat.lt, UnpackedFloat.compare, hswap]
    cases (compare e f).then (compare m n) <;> decide

/-! ### Finite floats -/

/-- What is unpacked is finite if not all bits of the exponent are set. -/
lemma isFinite_unpack (b : BitVec 64) :
    (UnpackedFloat.unpack .binary64 b).isFinite = true ↔ b.toNat % 2 ^ 63 < infinityBits := by
  unfold infinityBits
  simp only [UnpackedFloat.unpack]
  split
  · rename_i hones
    have hexponent := (unpackExponent_eq_ones b).mp hones
    have hlarge : ¬ b.toNat % 2 ^ 63 < 0x7FF0000000000000 := by omega
    simp only [hlarge, iff_false, Bool.not_eq_true]
    split <;> rfl
  · rename_i hones
    have hexponent := mt (unpackExponent_eq_ones b).mpr hones
    have hsmall : b.toNat % 2 ^ 63 < 0x7FF0000000000000 := by omega
    simp only [hsmall, iff_true]
    split
    · split <;> rfl
    · rfl

/-- A float is finite if its magnitude is below that of the infinities. -/
lemma isFinite_iff (x : Float) : x.isFinite = true ↔ x.toBits.toNat % 2 ^ 63 < infinityBits :=
  isFinite_unpack x.toBits.toBitVec

end Teardown.Decimal
