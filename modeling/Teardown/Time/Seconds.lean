import Teardown.Decimal.Layout
import Teardown.Decimal.Round
import Teardown.Json.Value

/-!
# Seconds

Spans of time and clock readings are numbers of seconds. `TimeScale` collects what the wait for a
workflow run needs of such numbers, so that the same wait can be read over machine numbers and
over exact ones. `Seconds` are the numbers that operators write: an integer stays an integer, in
messages too, and everything else is a float.
-/

namespace Teardown

/-- Numbers that can measure a wait. -/
class TimeScale (τ : Type) where
  /-- Whether a span is zero or negative. -/
  notPositive : τ → Bool
  /-- The moment that lies a span after a moment. -/
  after : τ → τ → τ
  /-- Whether a deadline has come at a clock reading. -/
  reached : τ → τ → Bool
  /-- The time from a first to a second clock reading, to thousandths. -/
  elapsed : τ → τ → τ
  /-- The number in a message. -/
  display : τ → String
  /-- The number in an answer. -/
  toJson : τ → Json

/-- A number of seconds, written as an integer or as a float. -/
inductive Seconds where
  | whole (n : Int)
  | decimal (x : Float)
deriving Inhabited, Repr

namespace Seconds

/-- The float nearest to the number. -/
def toFloat : Seconds → Float
  | .whole n => Decimal.ofInt n
  | .decimal x => x

/-- Whether the number is zero or negative. -/
def notPositive : Seconds → Bool
  | .whole n => n ≤ 0
  | .decimal x => x <= 0.0

/-- Whether the number is below zero. -/
def isNegative : Seconds → Bool
  | .whole n => n < 0
  | .decimal x => x < 0.0

/-- Whether the number is above zero. -/
def isPositive : Seconds → Bool
  | .whole n => 0 < n
  | .decimal x => 0.0 < x

/-- The sum, an integer when both numbers are. -/
def add : Seconds → Seconds → Seconds
  | .whole m, .whole n => .whole (m + n)
  | a, b => .decimal (a.toFloat + b.toFloat)

/-- The difference, an integer when both numbers are. -/
def sub : Seconds → Seconds → Seconds
  | .whole m, .whole n => .whole (m - n)
  | a, b => .decimal (a.toFloat - b.toFloat)

/-- Whether the first number is at most the second. -/
def le : Seconds → Seconds → Bool
  | .whole m, .whole n => m ≤ n
  | a, b => a.toFloat <= b.toFloat

/-- The number to three places. -/
def rounded : Seconds → Seconds
  | .whole n => .whole n
  | .decimal x => .decimal (Decimal.roundThousandths x)

/-- The number in a message. -/
def display : Seconds → String
  | .whole n => toString n
  | .decimal x => Decimal.display x

/-- The number in an answer. -/
def toJson : Seconds → Json
  | .whole n => .int n
  | .decimal x => .float x

/-- The number of seconds that a value gives, if it is a number. -/
def ofJson? : Json → Option Seconds
  | .int n => some (.whole n)
  | .float x => some (.decimal x)
  | .bool b => some (.whole b.toInt)
  | _ => none

end Seconds

instance : TimeScale Seconds where
  notPositive := Seconds.notPositive
  after := Seconds.add
  reached := Seconds.le
  elapsed started now := (now.sub started).rounded
  display := Seconds.display
  toJson := Seconds.toJson

end Teardown
