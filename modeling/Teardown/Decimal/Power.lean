/-!
# Powers of two and of ten

The binary and the decimal scale, as functions of the exponent.
-/

namespace Teardown.Decimal

/-- A power of two. -/
def twoTo (n : Nat) : Nat :=
  Nat.pow 2 n

/-- A power of ten. -/
def tenTo (n : Nat) : Nat :=
  Nat.pow 10 n

/-- The powers of two start at one. -/
theorem twoTo_zero : twoTo 0 = 1 := rfl

/-- The powers of ten start at one. -/
theorem tenTo_zero : tenTo 0 = 1 := rfl

end Teardown.Decimal
