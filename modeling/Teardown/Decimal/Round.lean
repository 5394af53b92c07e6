import Teardown.Decimal.Nearest
import Teardown.Decimal.Shortest

/-!
# Rounding to thousandths

The exact value of a float is rounded to the nearest thousandth, a half going to the even
neighbour, and the answer is the float nearest to that decimal number. Infinities and values
that are not a number are left as they are.
-/

namespace Teardown.Decimal

/-- The number of thousandths nearest to a positive finite float. -/
def Binary.thousandths (b : Binary) : Nat :=
  roundHalfEven (1000 * b.significand * twoTo b.exponent.toNat) (twoTo (-b.exponent).toNat)

/-- The float nearest to the decimal number of three places that is nearest to `x`. -/
def roundThousandths (x : Float) : Float :=
  match Reading.ofFloat x with
  | .finite negative _ =>
    let b := Binary.ofBits (x.toBits.toNat % twoTo 63)
    ofRatio negative b.thousandths 1000
  | _ => x

/-- The integer part of a finite float; nothing for the other values. -/
def integerPart? (x : Float) : Option Int :=
  match Reading.ofFloat x with
  | .finite negative _ =>
    let b := Binary.ofBits (x.toBits.toNat % twoTo 63)
    let n : Nat := b.significand * twoTo b.exponent.toNat / twoTo (-b.exponent).toNat
    some (if negative then -(n : Int) else n)
  | .zero _ => some 0
  | _ => none

/-- The integer that a float is equal to, if there is one. -/
def toInt? (x : Float) : Option Int :=
  match Reading.ofFloat x with
  | .finite _ digits => if 0 ≤ digits.exponent then integerPart? x else none
  | .zero _ => some 0
  | _ => none

end Teardown.Decimal
