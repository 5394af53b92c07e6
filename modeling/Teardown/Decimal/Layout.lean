import Teardown.Decimal.Shortest

/-!
# How a float is written

The digits of a float are laid out positionally while the exponent of its leading digit is
between two bounds, and with an exponent of ten otherwise. A `Layout` records these decisions;
`display` is the one of messages and answers, `taskText` the one of serialized tasks.
-/

namespace Teardown.Decimal

/-- The decisions on how digits are laid out. -/
structure Layout where
  /-- The lowest exponent of the leading digit that is written positionally. -/
  lowest : Int
  /-- The highest exponent of the leading digit that is written positionally. -/
  highest : Int
  /-- The least number of digits of a written exponent. -/
  exponentWidth : Nat

/-- Positional from 0.0001 up to below 10^16, and exponents of at least two digits. -/
def Layout.display : Layout where
  lowest := -4
  highest := 15
  exponentWidth := 2

/-- Positional from 0.00001 up to below 10^16, and exponents as short as they are. -/
def Layout.taskText : Layout where
  lowest := -5
  highest := 15
  exponentWidth := 1

/-- The exponent part: its mark, its sign and its digits. -/
def Layout.exponentText (layout : Layout) (exponent : Int) : String :=
  let digits := Nat.repr exponent.natAbs
  let padding := String.ofList (List.replicate (layout.exponentWidth - digits.length) '0')
  (if exponent < 0 then "e-" else "e+") ++ padding ++ digits

/-- The text of positive digits. A positional number has at least one digit after its point, a
number with an exponent has a point only between two digits. -/
def Layout.write (layout : Layout) (digits : Digits) : String :=
  let cs := Nat.toDigits 10 digits.coefficient
  let leading := digits.exponent + (cs.length : Int) - 1
  if layout.lowest ≤ leading ∧ leading ≤ layout.highest then
    if 0 ≤ digits.exponent then
      String.ofList (cs ++ List.replicate digits.exponent.toNat '0') ++ ".0"
    else if 0 ≤ leading then
      String.ofList (cs.take (leading.toNat + 1)) ++ "." ++
        String.ofList (cs.drop (leading.toNat + 1))
    else
      "0." ++ String.ofList (List.replicate ((-leading).toNat - 1) '0' ++ cs)
  else
    String.ofList (cs.take 1) ++ (if cs.length = 1 then "" else "." ++ String.ofList (cs.drop 1)) ++
      layout.exponentText leading

/-- The text of a float, with `inf` and `nan` for the values that have no digits. -/
def Layout.render (layout : Layout) (x : Float) : String :=
  match Reading.ofFloat x with
  | .notANumber => "nan"
  | .infinite negative => if negative then "-inf" else "inf"
  | .zero negative => if negative then "-0.0" else "0.0"
  | .finite negative digits => (if negative then "-" else "") ++ layout.write digits

/-- The text of a float in messages and answers. -/
def display (x : Float) : String :=
  Layout.display.render x

end Teardown.Decimal
