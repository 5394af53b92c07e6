import Teardown.Decimal.Power

/-!
# The fewest digits that identify a float

A finite float stands for every real number that rounds to it: an interval around its exact
value, whose ends belong to it when the significand is even. `shortest` looks for the coarsest
decimal grid with a point in that interval and takes the grid's point nearest to the exact value,
an exact tie going to the even digit. All of it is exact arithmetic on naturals.
-/

namespace Teardown.Decimal

/-- A decimal number `coefficient * 10 ^ exponent` without trailing zeros. -/
structure Digits where
  coefficient : Nat
  exponent : Int
deriving Repr, DecidableEq

/-- The parts of a finite float: its value is `significand * 2 ^ exponent`. -/
structure Binary where
  significand : Nat
  exponent : Int
  /-- The float below is only half as far away as the float above. -/
  uneven : Bool
deriving Repr, DecidableEq

/-- The parts of a positive finite float, given by its bits. -/
def Binary.ofBits (bits : Nat) : Binary :=
  let field : Nat := bits / twoTo 52
  let fraction : Nat := bits % twoTo 52
  if field = 0 then ⟨fraction, -1074, false⟩
  else ⟨twoTo 52 + fraction, Int.ofNat field - 1075, fraction == 0 && 1 < field⟩

/-- An interval of fractions over one denominator, around an exact value. -/
structure Interval where
  low : Nat
  value : Nat
  high : Nat
  denominator : Nat
  closed : Bool

/-- The numbers that round to a float, in quarters of its unit in the last place. -/
def Binary.interval (b : Binary) : Interval :=
  let scale := twoTo (b.exponent - 2).toNat
  { low := (4 * b.significand - (if b.uneven then 1 else 2)) * scale
    value := 4 * b.significand * scale
    high := (4 * b.significand + 2) * scale
    denominator := twoTo (2 - b.exponent).toNat
    closed := b.significand % 2 == 0 }

/-- Whether the fraction `num / den` lies in the interval. -/
def Interval.holds (i : Interval) (num den : Nat) : Bool :=
  if i.closed then i.low * den ≤ num * i.denominator && num * i.denominator ≤ i.high * den
  else i.low * den < num * i.denominator && num * i.denominator < i.high * den

/-- The exponent of ten of the leading digit of `num / den`. -/
def leadingExponent (num den : Nat) : Int :=
  if den ≤ num then ((Nat.toDigits 10 (num / den)).length : Int) - 1
  else
    let places := (Nat.toDigits 10 (den / num)).length
    if den = num * tenTo (places - 1) then 1 - (places : Int) else -(places : Int)

/-- The point of the grid of multiples of `10 ^ place` nearest to the value, if one of the two
neighbours of the value lies in the interval. -/
def Interval.gridPoint? (i : Interval) (place : Int) : Option Nat :=
  let up := tenTo place.toNat
  let down := tenTo (-place).toNat
  let below := i.value * down / (i.denominator * up)
  let holds (n : Nat) : Bool := i.holds (n * up) down
  match holds below, holds (below + 1) with
  | false, false => none
  | true, false => some below
  | false, true => some (below + 1)
  | true, true =>
    let twice := 2 * (i.value * down % (i.denominator * up))
    if twice < i.denominator * up then some below
    else if i.denominator * up < twice then some (below + 1)
    else some (below + below % 2)

/-- Moves trailing zeros of the coefficient into the exponent. -/
def Digits.normalize : Nat → Nat → Int → Digits
  | 0, coefficient, exponent => ⟨coefficient, exponent⟩
  | fuel + 1, coefficient, exponent =>
    if coefficient ≠ 0 ∧ coefficient % 10 = 0 then
      normalize fuel (coefficient / 10) (exponent + 1)
    else ⟨coefficient, exponent⟩

/-- Tries one digit more at each step; seventeen digits identify every float. -/
def Interval.search (i : Interval) (leading : Int) : Nat → Nat → Digits
  | 0, _ => ⟨i.value / i.denominator, 0⟩
  | left + 1, count =>
    let place := leading - (count : Int)
    match i.gridPoint? place with
    | some n => Digits.normalize 20 n place
    | none => i.search leading left (count + 1)

/-- The shortest digits of a positive finite float. -/
def Binary.shortest (b : Binary) : Digits :=
  let i := b.interval
  i.search (leadingExponent i.value i.denominator) 17 0

/-- What a float is, for the purpose of writing it. -/
inductive Reading where
  | notANumber
  | infinite (negative : Bool)
  | zero (negative : Bool)
  | finite (negative : Bool) (digits : Digits)
deriving Repr, DecidableEq

/-- Takes a float apart into sign and shortest digits. -/
def Reading.ofFloat (x : Float) : Reading :=
  let bits := x.toBits.toNat
  let negative := twoTo 63 ≤ bits
  let magnitude := bits % twoTo 63
  let limit := 0x7FF * twoTo 52
  if limit < magnitude then .notANumber
  else if magnitude = limit then .infinite negative
  else if magnitude = 0 then .zero negative
  else .finite negative (Binary.ofBits magnitude).shortest

end Teardown.Decimal
