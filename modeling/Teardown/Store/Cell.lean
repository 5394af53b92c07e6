import Teardown.Validation.Number

/-!
# Values of columns for stamps

The columns for stamps hold values of any kind. A text that writes a number is stored as this
number: as an integer if it is equal to one of 64 bits, and otherwise as a float.
-/

namespace Teardown.Store

/-- A value of a column for stamps. -/
inductive Cell where
  | text (s : String)
  | integer (n : Int)
  | real (x : Float)
  | blob (bytes : List UInt8)
deriving DecidableEq, Repr

instance : Coe String Cell := ⟨.text⟩

/-- The smallest number above all integers of 64 bits. -/
def idLimit : Int := 0x8000000000000000

namespace Cell

/-- The blanks that may stand around a number. -/
def isBlank (c : Char) : Bool :=
  c == ' ' || (9 ≤ c.toNat && c.toNat ≤ 13)

/-- The value that is stored of a text. -/
def ofText (s : String) : Cell :=
  let (negative, body) := Validation.signed (Text.trimBoth isBlank s.toList)
  match Validation.decimal? negative body with
  | none => .text s
  | some x =>
    let magnitude : Int := Json.Reader.natOfDigits body
    let n := if negative then -magnitude else magnitude
    if body.all Char.isDigit ∧ -idLimit ≤ n ∧ n < idLimit then .integer n
    else
      match Decimal.toInt? x with
      | some n => if -idLimit < n ∧ n < idLimit then .integer n else .real x
      | none => .real x

/-- The value for inspection; texts are shown as `present` shows them. -/
def shown (present : String → String) : Cell → Json
  | .text s => .str (present s)
  | .integer n => .int n
  | .real x => .float x
  | .blob bytes => .arr (bytes.map fun b => .int b.toNat)

end Cell

end Teardown.Store
