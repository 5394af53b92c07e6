import Teardown.Text.Digit
import Teardown.Validation.Number

/-!
# Numbers on the command line

Numbers are written with the decimal digits of any script and may have white space around them.
Single underscores may stand between digits. An integer has an optional sign and at most 4300
digits; a float is a decimal number with an optional point and exponent, or a word for infinity
or for a value that is not a number.
-/

namespace Teardown.CommandLine

/-- The text without the white space around it, with every decimal digit as the ASCII digit of
the same value. -/
def plain (text : String) : List Char :=
  (Text.trimBoth Text.isSpace text.toList).map fun c =>
    match Text.decimalDigit? c with
    | some n => Nat.digitChar n
    | none => c

/-- The largest number of digits of an integer. -/
def digitLimit : Nat := 4300

/-- The integer that a text writes. -/
def integer? (text : String) : Option Int := do
  let (negative, body) := Validation.signed (plain text)
  let digits ← Validation.joinDigits? body
  if digits = [] ∨ !digits.all Char.isDigit ∨ digitLimit < digits.length then none
  let n : Int := Json.Reader.natOfDigits digits
  return if negative then -n else n

/-- The float that a text writes. -/
def float? (text : String) : Option Float :=
  Validation.floatOfChars? (plain text)

end Teardown.CommandLine
