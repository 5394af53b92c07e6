import Teardown.Decimal.Round
import Teardown.Json.Value

/-!
# Equality of values

Two values are equal when they have the same content. Integers, booleans and floats are compared
as numbers, so that `1`, `1.0` and `true` are equal, and the order of the members of an object
does not matter. A value that is not a number equals nothing.
-/

namespace Teardown.Json

/-- The number that a value is, as an integer or as a float. -/
def number? : Json → Option (Int ⊕ Float)
  | .int n => some (.inl n)
  | .bool b => some (.inl (if b then 1 else 0))
  | .float x =>
    match Decimal.toInt? x with
    | some n => some (.inl n)
    | none => some (.inr x)
  | _ => none

/-- Whether two values are the same number; false when one of them is no number. -/
def sameNumber (v w : Json) : Bool :=
  match v.number?, w.number? with
  | some (.inl m), some (.inl n) => m == n
  | some (.inr x), some (.inr y) => x == y
  | _, _ => false

mutual

/-- Whether two values are equal. -/
def equal : Json → Json → Bool
  | .null, .null => true
  | .str s, .str t => s == t
  | .arr vs, .arr ws => equalItems vs ws
  | .obj ms, .obj ns => ms.length == ns.length && equalMembers ms ns
  | v, w => sameNumber v w

/-- Whether two lists have equal values at equal places. -/
def equalItems : List Json → List Json → Bool
  | [], [] => true
  | v :: vs, w :: ws => equal v w && equalItems vs ws
  | _, _ => false

/-- Whether every member of the first object has an equal one in the second. -/
def equalMembers : List (String × Json) → List (String × Json) → Bool
  | [], _ => true
  | (key, v) :: rest, ns =>
    (match member? key ns with
      | some w => equal v w
      | none => false) && equalMembers rest ns

end

end Teardown.Json
