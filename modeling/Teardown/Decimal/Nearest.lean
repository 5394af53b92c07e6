import Teardown.Decimal.Power

/-!
# The float nearest to a fraction

`ofRatio` rounds an exact fraction of naturals to the nearest 64-bit binary float. A fraction
half way between two floats goes to the one whose significand is even, and one that is too large
for every finite float becomes infinite. The computation is exact: no float arithmetic takes
part in it.
-/

namespace Teardown.Decimal

/-- The natural number nearest to `num / den`, a half going to the even neighbour. -/
def roundHalfEven (num den : Nat) : Nat :=
  let quotient := num / den
  let twice := 2 * (num % den)
  if twice < den then quotient
  else if den < twice then quotient + 1
  else quotient + quotient % 2

/-- The exponent of two for which `num / den` has 53 binary digits before the point, or one less;
never below -1074, the exponent of the smallest float. -/
def binaryExponent (num den : Nat) : Int :=
  max (-1074) ((num.log2 : Int) - (den.log2 : Int) - 53)

/-- The significand of `num / den` at exponent `e`, rounded to the nearest integer. -/
def significandAt (num den : Nat) (e : Int) : Nat :=
  if 0 ≤ e then roundHalfEven num (den * twoTo e.toNat)
  else roundHalfEven (num * twoTo (-e).toNat) den

/-- The bits of the non-negative float nearest to `num / den`. -/
def nearestBits (num den : Nat) : Nat :=
  let guess := binaryExponent num den
  let e := if significandAt num den guess ≤ twoTo 53 then guess else guess + 1
  if 971 < e then 0x7FF0000000000000
  else min 0x7FF0000000000000 ((e + 1074).toNat * twoTo 52 + significandAt num den e)

/-- The float nearest to `num / den`, negated when `negative` holds. -/
def ofRatio (negative : Bool) (num den : Nat) : Float :=
  let magnitude := if num = 0 then 0.0 else Float.ofBits (UInt64.ofNat (nearestBits num den))
  if negative then -magnitude else magnitude

/-- The float nearest to an integer; infinite when the integer is too large. -/
def ofInt (n : Int) : Float :=
  ofRatio (n < 0) n.natAbs 1

/-- The float nearest to `coefficient * 10 ^ exponent`. Exponents that put the value beyond all
floats are answered without computing the power. -/
def ofDigits (negative : Bool) (coefficient : Nat) (exponent : Int) : Float :=
  let magnitude : Int := ((Nat.toDigits 10 coefficient).length : Int) + exponent
  if coefficient = 0 || magnitude < -400 then ofRatio negative 0 1
  else if 400 < magnitude then ofRatio negative (tenTo 400) 1
  else if 0 ≤ exponent then ofRatio negative (coefficient * tenTo exponent.toNat) 1
  else ofRatio negative coefficient (tenTo (-exponent).toNat)

end Teardown.Decimal
