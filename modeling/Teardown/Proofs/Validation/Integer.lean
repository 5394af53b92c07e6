import Teardown.Proofs.Json.Number
import Teardown.Validation.Number

/-!
# Decimal texts of integers

An integer field reads the decimal text of every integer as this integer, up to the length at which
it stops reading integers at all (`integerOfText_toString`).  Other texts may be longer, with blanks
or zeros for instance, but no integer that is read from one has a longer text of its own
(`length_of_integerOfText`).
-/

namespace Teardown.Validation

open Json.Reader

/-- The decimal text of an integer is a sign before digits. -/
lemma minusSigned_toString (n : Int) :
    minusSigned (toString n).toList = (decide (n < 0), Nat.toDigits 10 n.natAbs) := by
  rw [← int_eq_toString, Json.Writer.int]
  by_cases hn : n < 0
  · rw [if_pos hn, decide_eq_true hn]
    rfl
  · rw [if_neg hn, decide_eq_false hn, List.nil_append]
    unfold minusSigned
    split
    · rename_i hminus
      exact absurd (isDigit_toDigits n.natAbs '-' (hminus ▸ List.mem_cons_self)) (by decide)
    · rfl

/-- The length of the decimal text of an integer. -/
lemma length_toString (n : Int) : (toString n).length =
    (Nat.toDigits 10 n.natAbs).length + (if decide (n < 0) = true then 1 else 0) := by
  rw [← String.length_toList, ← int_eq_toString, Json.Writer.int, List.length_append, Nat.add_comm]
  simp only [decide_eq_true_eq]
  split <;> rfl

/-- The decimal text of an integer is read as it stands, unless it is too long. -/
lemma plainInteger_toString (n : Int) : plainInteger (toString n).toList =
    if integerLength < (toString n).length then .error .integerSize else .ok n := by
  obtain ⟨hne, hdigits, hhead, -⟩ := wellFormed_toDigits n.natAbs
  have haccepted : ¬ (Nat.toDigits 10 n.natAbs = [] ∨ (1 < (Nat.toDigits 10 n.natAbs).length ∧
      (Nat.toDigits 10 n.natAbs).head? = some '0')) := by
    rintro (hnil | ⟨hlength, hzero⟩)
    · exact hne hnil
    · exact hhead hlength hzero
  have hvalue : (if decide (n < 0) = true then -(n.natAbs : Int) else n.natAbs) = n := by
    simp only [decide_eq_true_eq]
    split <;> omega
  unfold plainInteger
  rw [minusSigned_toString, length_toString]
  dsimp only
  rw [List.takeWhile_eq_self_iff.mpr hdigits, List.dropWhile_eq_nil_iff.mpr hdigits,
    if_neg haccepted, if_neg (not_not.mpr rfl), natOfDigits_toDigits, hvalue]

/-- The decimal text of an integer is read as the integer unless it is too long. -/
lemma integerOfText_toString (n : Int) : integerOfText (toString n) =
    if 4300 < (toString n).length then .error .integerSize else .ok n := by
  have hplain := plainInteger_toString n
  unfold integerLength at hplain
  unfold integerOfText
  rw [hplain]
  by_cases hlong : 4300 < (toString n).length
  · rw [if_pos hlong]
  · rw [if_neg hlong]

/-- An integer that was read from digits, perhaps with a sign, is not longer than these. -/
lemma length_toString_le {negative : Bool} {digits : List Char} (hne : digits ≠ [])
    (hdigits : ∀ c ∈ digits, c.isDigit = true) {n : Int}
    (hn : n = if negative then -(natOfDigits digits : Int) else natOfDigits digits) :
    (toString n).length ≤ digits.length + (if negative then 1 else 0) := by
  have hlength := length_toDigits_natOfDigits hne hdigits
  rw [length_toString]
  cases negative with
  | false =>
    have hvalue : n = natOfDigits digits := hn
    have hnonneg : ¬ n < 0 := by omega
    rw [decide_eq_false hnonneg, hvalue, Int.natAbs_natCast]
    exact hlength
  | true =>
    have hvalue : n = -(natOfDigits digits : Int) := hn
    rw [hvalue, Int.natAbs_neg, Int.natAbs_natCast]
    refine Nat.add_le_add hlength ?_
    split
    · rfl
    · exact Nat.zero_le 1

/-- An integer that is read as it stands is not too long. -/
lemma length_of_plainInteger {cs : List Char} {n : Int} (h : plainInteger cs = .ok n) :
    (toString n).length ≤ integerLength := by
  unfold plainInteger at h
  generalize minusSigned cs = parts at h
  obtain ⟨negative, body⟩ := parts
  dsimp only at h
  by_cases hwhole : body.takeWhile Char.isDigit = [] ∨
      (1 < (body.takeWhile Char.isDigit).length ∧ (body.takeWhile Char.isDigit).head? = some '0')
  · rw [if_pos hwhole] at h
    cases h
  by_cases hlong : integerLength <
      (body.takeWhile Char.isDigit).length + (if negative then 1 else 0)
  · rw [if_neg hwhole, if_pos hlong] at h
    cases h
  by_cases hrest : body.dropWhile Char.isDigit = []
  · rw [if_neg hwhole, if_neg hlong, if_neg (not_not.mpr hrest)] at h
    have hn := (Except.ok.inj h).symm
    exact (length_toString_le (not_or.mp hwhole).1 (fun c hc => List.mem_takeWhile_imp hc) hn).trans
      (Nat.not_lt.mp hlong)
  · rw [if_neg hwhole, if_neg hlong, if_pos hrest] at h
    cases h

/-- An integer that a field reads from a text is not too long. -/
lemma length_of_integerOfText {s : String} {n : Int} (h : integerOfText s = .ok n) :
    (toString n).length ≤ integerLength := by
  unfold integerOfText at h
  split at h
  · cases htidied : tidied? s.toList with
    | none =>
      rw [htidied] at h
      cases h
    | some cs =>
      rw [htidied, Option.map_some] at h
      cases hplain : plainInteger cs with
      | error issue =>
        rw [hplain] at h
        cases h
      | ok n' =>
        rw [hplain] at h
        cases h
        exact length_of_plainInteger hplain
  · exact length_of_plainInteger h

end Teardown.Validation
