import Teardown.Decimal.Nearest
import Teardown.Decimal.Round
import Teardown.Json.Reader
import Teardown.Text.Blank
import Teardown.Validation

/-!
# Numbers in fields

An integer field takes integers, booleans, floats without a fraction and texts; a float field
takes integers, booleans, floats and texts. Texts may be surrounded by white space. An integer
text has an optional sign, perhaps zeros in front, digits that may be separated by single
underscores, and optionally a point followed by zeros only. It is first read as it stands, and
only if that fails is it tidied and read again; its length is bounded in both readings. A float
text is a decimal number with an optional point and exponent, again with single underscores
between digits, or a word for infinity or for a value that is not a number.
-/

namespace Teardown.Validation

/-- The characters of a text without the white space around it. -/
def trimmed (s : String) : List Char :=
  Text.trimBoth Text.isSpace s.toList

/-- Removes single underscores between digits; an underscore anywhere else is refused. -/
def joinDigits? : List Char → Option (List Char)
  | [] => some []
  | c :: '_' :: d :: rest =>
    if c.isDigit && d.isDigit then (joinDigits? (d :: rest)).map (c :: ·) else none
  | '_' :: _ => none
  | c :: rest => (joinDigits? rest).map (c :: ·)

/-- Takes the sign off a text. -/
def signed : List Char → Bool × List Char
  | '-' :: rest => (true, rest)
  | '+' :: rest => (false, rest)
  | rest => (false, rest)

/-- The largest number of characters of an integer that is read, its sign included. -/
def integerLength : Nat := 4300

/-- Takes the minus sign off a text. -/
def minusSigned : List Char → Bool × List Char
  | '-' :: rest => (true, rest)
  | rest => (false, rest)

/-- Reads digits behind an optional minus sign, of which the first is a zero only if it is the only
one. Too many digits are refused whatever follows them. -/
def plainInteger (cs : List Char) : Except Issue Int :=
  let (negative, body) := minusSigned cs
  let digits := body.takeWhile Char.isDigit
  if digits = [] ∨ (1 < digits.length ∧ digits.head? = some '0') then .error .integerText
  else if integerLength < digits.length + (if negative then 1 else 0) then .error .integerSize
  else if body.dropWhile Char.isDigit ≠ [] then .error .integerText
  else
    let n : Int := Json.Reader.natOfDigits digits
    .ok (if negative then -n else n)

/-- What follows zeros, with underscores between and behind them; the last of these characters is
kept if nothing or a point follows. -/
def afterZeros? (last : Char) : List Char → Option (List Char)
  | [] => some [last]
  | c :: rest =>
    if c = '0' ∨ c = '_' then afterZeros? c rest
    else if c.isDigit ∨ c = '-' then some (c :: rest)
    else if c = '.' then some (last :: c :: rest)
    else none

/-- A number without the zeros in front of it. -/
def dropZeros? : List Char → Option (List Char)
  | '0' :: rest => afterZeros? '0' rest
  | c :: rest => if c.isDigit then some (c :: rest) else none
  | [] => none

/-- A number without its point if only zeros follow the point, and at least one. -/
def dropFraction (cs : List Char) : List Char :=
  match cs.dropWhile (· != '.') with
  | _ :: places => if places != [] && places.all (· == '0') then cs.takeWhile (· != '.') else cs
  | [] => cs

/-- Removes underscores that stand alone before another character; any other is refused. -/
def dropUnderscores? : List Char → Option (List Char)
  | [] => some []
  | '_' :: [] => none
  | '_' :: c :: rest => if c = '_' then none else (dropUnderscores? rest).map (c :: ·)
  | c :: rest => (dropUnderscores? rest).map (c :: ·)

/-- An integer without what a reading may pass over: white space around it, a plus sign, zeros in
front, underscores and a fraction of zeros. -/
def tidied? (cs : List Char) : Option (List Char) := do
  let (sign, body) := match Text.trimBoth Text.isSpace cs with
    | '-' :: rest => (['-'], rest)
    | '+' :: rest => ([], rest)
    | rest => ([], rest)
  let body ← dropZeros? body
  let body ← dropUnderscores? (dropFraction body)
  return sign ++ body

/-- The integer that a text writes. -/
def integerOfText (s : String) : Except Issue Int :=
  match plainInteger s.toList with
  | .error .integerText =>
    match (tidied? s.toList).map plainInteger with
    | some (.ok n) => .ok n
    | _ => .error .integerText
  | outcome => outcome

/-- The words for values without digits, in small letters. -/
def specialFloat? (word : String) : Option Float :=
  if word = "inf" ∨ word = "infinity" then some (1.0 / 0.0)
  else if word = "nan" then some (0.0 / 0.0)
  else none

/-- The value of an unsigned decimal text: digits before or after a point, then perhaps an
exponent. -/
def decimal? (negative : Bool) (cs : List Char) : Option Float := do
  let whole := cs.takeWhile Char.isDigit
  let rest := cs.dropWhile Char.isDigit
  let (places, rest) := match rest with
    | '.' :: rest => (rest.takeWhile Char.isDigit, rest.dropWhile Char.isDigit)
    | _ => ([], rest)
  if whole = [] ∧ places = [] then none
  let power : Option Int := match rest with
    | [] => some 0
    | mark :: rest =>
      if mark = 'e' ∨ mark = 'E' then
        let (below, digits) := signed rest
        if digits ≠ [] ∧ digits.all Char.isDigit then
          let n : Int := Json.Reader.natOfDigits digits
          some (if below then -n else n)
        else none
      else none
  let power ← power
  return Decimal.ofDigits negative (Json.Reader.natOfDigits (whole ++ places))
    (power - (places.length : Int))

/-- The float that a text without white space around it writes. -/
def floatOfChars? (cs : List Char) : Option Float :=
  let (negative, body) := signed cs
  match specialFloat? (String.ofList (body.map Char.toLower)) with
  | some x => some (if negative then -x else x)
  | none => (joinDigits? body).bind (decimal? negative)

/-- The float that a text writes. -/
def floatOfText (s : String) : Except Issue Float :=
  match floatOfChars? (trimmed s) with
  | some x => .ok x
  | none => .error .numberText

/-- The largest magnitude, exclusive, at which a float is taken for an integer. -/
def integerLimit : Int := 0x8000000000000000

/-- Reads an integer field. -/
def integer : Json → Except Issue Int
  | .int n => .ok n
  | .bool b => .ok (if b then 1 else 0)
  | .float x =>
    if x.isNaN || x.isInf then .error .notFinite
    else
      match Decimal.toInt? x with
      | none => .error .integerFraction
      | some n => if -integerLimit < n ∧ n < integerLimit then .ok n else .error .integerSize
  | .str s => integerOfText s
  | _ => .error .notInteger

/-- Reads a float field. -/
def float : Json → Except Issue Float
  | .int n =>
    let x := Decimal.ofInt n
    if x.isInf then .error .notNumber else .ok x
  | .bool b => .ok (if b then 1.0 else 0.0)
  | .float x => .ok x
  | .str s => floatOfText s
  | _ => .error .notNumber

/-- Reads a text field. -/
def text : Json → Except Issue String
  | .str s => .ok s
  | _ => .error .notText

/-- A float above zero. -/
def positive (x : Float) : Except Issue Float :=
  if 0.0 < x then .ok x else .error (.notAbove 0)

/-- A text with at least one character. -/
def nonempty (s : String) : Except Issue String :=
  if s.isEmpty then .error .emptyText else .ok s

end Teardown.Validation
