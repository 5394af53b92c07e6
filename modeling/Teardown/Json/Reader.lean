import Teardown.Decimal.Nearest
import Teardown.Json.Value

/-!
# Reading values from text

The reader takes strict text with the three additional words `NaN`, `Infinity` and `-Infinity`.
Every function returns what it read together with the characters that follow. The recursion is
bounded by `steps`, which `readChars` computes from the length of the text, so that it is never
the bound that stops a reading; the nesting of lists and objects is bounded by the dialect. A text
is read from left to right, and the first fault ends the reading.

A number with a point or an exponent is a float, every other number an integer. Of members with
one key the last value is kept, in the place of the first.
-/

namespace Teardown.Json

/-- What a text may hold beyond the common grammar. -/
structure Dialect where
  /-- How deep lists and objects may be nested. -/
  nesting : Nat
  /-- Whether a list or an object without elements counts for the nesting. -/
  nestsEmpty : Bool
  /-- How long a number may be in front of its point or exponent, if that is bounded; `decimal`
  tells whether it has one of them. -/
  wholeLength : (decimal : Bool) → Option Nat
  /-- No float is written with more than a sign and sixteen digits in front. -/
  wholeLength_decimal : (wholeLength true).all (17 ≤ ·) = true
  /-- Whether the sign of a number counts for its length. -/
  countsSign : Bool
  /-- Whether half of a surrogate pair may stand alone; it is read as U+FFFD. -/
  loneHalves : Bool

/-- Whether a number may have this many digits in front. -/
def Dialect.allows (d : Dialect) (negative decimal : Bool) (digits : Nat) : Bool :=
  (d.wholeLength decimal).all (digits + (if negative && d.countsSign then 1 else 0) ≤ ·)

/-- Why a text is not read. -/
inductive Fault where
  /-- The text breaks the grammar, or a number in it is too long. -/
  | malformed
  /-- A list starts where the nesting leaves no room for one. -/
  | deepList
  /-- An object starts where the nesting leaves no room for one. -/
  | deepObject
deriving Repr, DecidableEq

namespace Reader

/-- Blank characters between the parts of a value. -/
def isLayout (c : Char) : Bool :=
  c == ' ' || c == '\t' || c == '\n' || c == '\r'

/-- The text after its leading layout. -/
def skip (cs : List Char) : List Char :=
  cs.dropWhile isLayout

/-- The value of a hexadecimal digit. -/
def hexValue? (c : Char) : Option Nat :=
  if c.isDigit then some (c.toNat - 48)
  else if 'a' ≤ c ∧ c ≤ 'f' then some (c.toNat - 87)
  else if 'A' ≤ c ∧ c ≤ 'F' then some (c.toNat - 55)
  else none

/-- The number written by four hexadecimal digits. -/
def unit? (a b c d : Char) : Option Nat := do
  let a ← hexValue? a
  let b ← hexValue? b
  let c ← hexValue? c
  let d ← hexValue? d
  return ((a * 16 + b) * 16 + c) * 16 + d

/-- The character that a one-letter escape stands for. -/
def escaped? : Char → Option Char
  | '"' => some '"'
  | '\\' => some '\\'
  | '/' => some '/'
  | 'b' => some '\x08'
  | 'f' => some '\x0c'
  | 'n' => some '\n'
  | 'r' => some '\r'
  | 't' => some '\t'
  | _ => none

/-- A part of a text: a character, or a 16-bit unit given by its number. -/
inductive Piece where
  | char (c : Char)
  | unit (n : Nat)

/-- The pieces of a text up to its closing quote. -/
def pieces : List Char → Option (List Piece × List Char)
  | [] => none
  | '"' :: rest => some ([], rest)
  | '\\' :: 'u' :: a :: b :: c :: d :: rest => do
    let n ← unit? a b c d
    let (ps, rest) ← pieces rest
    return (.unit n :: ps, rest)
  | '\\' :: e :: rest => do
    let c ← escaped? e
    let (ps, rest) ← pieces rest
    return (.char c :: ps, rest)
  | c :: rest =>
    if c.toNat < 0x20 ∨ c = '\\' then none
    else do
      let (ps, rest) ← pieces rest
      return (.char c :: ps, rest)

/-- A unit that is the first half of a surrogate pair. -/
def isHighHalf (n : Nat) : Bool :=
  0xD800 ≤ n && n ≤ 0xDBFF

/-- A unit that is the second half of a surrogate pair. -/
def isLowHalf (n : Nat) : Bool :=
  0xDC00 ≤ n && n ≤ 0xDFFF

/-- The character of a surrogate pair. -/
def pairChar (high low : Nat) : Char :=
  Char.ofNat (0x10000 + (high - 0xD800) * 0x400 + (low - 0xDC00))

/-- Joins pieces to characters; half a pair that stands alone is refused or replaced. -/
def join (loneHalves : Bool) : List Piece → Option (List Char)
  | [] => some []
  | .char c :: ps => (join loneHalves ps).map (c :: ·)
  | .unit n :: ps =>
    match isHighHalf n, ps with
    | true, .unit m :: qs =>
      if isLowHalf m then (join loneHalves qs).map (pairChar n m :: ·)
      else if loneHalves then (join loneHalves (.unit m :: qs)).map ('\ufffd' :: ·)
      else none
    | _, ps =>
      if isHighHalf n || isLowHalf n then
        if loneHalves then (join loneHalves ps).map ('\ufffd' :: ·) else none
      else (join loneHalves ps).map (Char.ofNat n :: ·)

/-- The text up to its closing quote. -/
def text (d : Dialect) (cs : List Char) : Option (String × List Char) := do
  let (ps, rest) ← pieces cs
  let chars ← join d.loneHalves ps
  return (String.ofList chars, rest)

/-- The number that decimal digits write. -/
def natOfDigits (cs : List Char) : Nat :=
  cs.foldl (fun n c => 10 * n + (c.toNat - 48)) 0

/-- Digits after a point, if there is a point; at least one digit must follow it. -/
def fraction (cs : List Char) : Option (Option (List Char) × List Char) :=
  match cs with
  | '.' :: rest =>
    match rest.takeWhile Char.isDigit with
    | [] => none
    | digits => some (some digits, rest.dropWhile Char.isDigit)
  | _ => some (none, cs)

/-- An exponent, if its mark is there; at least one digit must follow. -/
def exponent (cs : List Char) : Option (Option Int × List Char) :=
  let signed (negative : Bool) (rest : List Char) : Option (Option Int × List Char) :=
    match rest.takeWhile Char.isDigit with
    | [] => none
    | digits =>
      let n : Int := natOfDigits digits
      some (some (if negative then -n else n), rest.dropWhile Char.isDigit)
  let marked (rest : List Char) : Option (Option Int × List Char) :=
    match rest with
    | '-' :: rest => signed true rest
    | '+' :: rest => signed false rest
    | _ => signed false rest
  match cs with
  | 'e' :: rest => marked rest
  | 'E' :: rest => marked rest
  | _ => some (none, cs)

/-- The digits of an unsigned number; a zero is followed by no other digit. -/
def magnitude (d : Dialect) (negative : Bool) (cs : List Char) : Option (Json × List Char) := do
  let whole := cs.takeWhile Char.isDigit
  if whole = [] ∨ (1 < whole.length ∧ whole.head? = some '0') then none
  let (places, rest) ← fraction (cs.dropWhile Char.isDigit)
  let (power, rest) ← exponent rest
  if !d.allows negative (places.isSome || power.isSome) whole.length then none
  match places, power with
  | none, none =>
    let n : Int := natOfDigits whole
    return (.int (if negative then -n else n), rest)
  | _, _ =>
    let places := places.getD []
    let shift : Int := power.getD 0 - (places.length : Int)
    return (.float (Decimal.ofDigits negative (natOfDigits (whole ++ places)) shift), rest)

/-- A number or one of the words that stand for numbers without digits. -/
def number (d : Dialect) (cs : List Char) : Option (Json × List Char) :=
  match cs with
  | '-' :: 'I' :: rest =>
    if "nfinity".toList.isPrefixOf rest then some (.float (-(1.0 / 0.0)), rest.drop 7) else none
  | '-' :: rest => magnitude d true rest
  | _ => magnitude d false cs

/-- Reads the characters of a word. -/
def word (w : String) (v : Json) (cs : List Char) : Option (Json × List Char) :=
  if w.toList.isPrefixOf cs then some (v, cs.drop w.length) else none

/-- What was read; nothing that is read is a fault of the grammar. -/
def expect {α : Type} : Option α → Except Fault α
  | some read => .ok read
  | none => .error .malformed

mutual

/-- One value after its leading layout. -/
def value (d : Dialect) : Nat → Nat → List Char → Except Fault (Json × List Char)
  | 0, _, _ => .error .malformed
  | steps + 1, depth, cs =>
    match skip cs with
    | '"' :: rest => do
      let (s, rest) ← expect (text d rest)
      return (.str s, rest)
    | '[' :: rest =>
      match skip rest with
      | ']' :: rest => if d.nestsEmpty ∧ depth = 0 then .error .deepList else .ok (.arr [], rest)
      | rest =>
        match depth with
        | 0 => .error .deepList
        | depth + 1 => do
          let (vs, rest) ← items d steps depth rest
          return (.arr vs, rest)
    | '\x7b' :: rest =>
      match skip rest with
      | '\x7d' :: rest => if d.nestsEmpty ∧ depth = 0 then .error .deepObject else .ok (.obj [], rest)
      | rest =>
        match depth with
        | 0 => .error .deepObject
        | depth + 1 => do
          let (pairs, rest) ← members d steps depth rest
          return (.obj (ofPairs pairs), rest)
    | 'n' :: rest => expect (word "ull" .null rest)
    | 't' :: rest => expect (word "rue" (.bool true) rest)
    | 'f' :: rest => expect (word "alse" (.bool false) rest)
    | 'N' :: rest => expect (word "aN" (.float (0.0 / 0.0)) rest)
    | 'I' :: rest => expect (word "nfinity" (.float (1.0 / 0.0)) rest)
    | rest => expect (number d rest)

/-- The values of a list up to its closing bracket. -/
def items (d : Dialect) : Nat → Nat → List Char → Except Fault (List Json × List Char)
  | 0, _, _ => .error .malformed
  | steps + 1, depth, cs => do
    let (v, rest) ← value d steps depth cs
    match skip rest with
    | ',' :: rest =>
      let (vs, rest) ← items d steps depth rest
      return (v :: vs, rest)
    | ']' :: rest => return ([v], rest)
    | _ => .error .malformed

/-- The members of an object up to its closing brace. -/
def members (d : Dialect) : Nat → Nat → List Char → Except Fault (Members × List Char)
  | 0, _, _ => .error .malformed
  | steps + 1, depth, cs =>
    match skip cs with
    | '"' :: rest => do
      let (key, rest) ← expect (text d rest)
      match skip rest with
      | ':' :: rest =>
        let (v, rest) ← value d steps depth rest
        match skip rest with
        | ',' :: rest =>
          let (pairs, rest) ← members d steps depth rest
          return ((key, v) :: pairs, rest)
        | '\x7d' :: rest => return ([(key, v)], rest)
        | _ => .error .malformed
      | _ => .error .malformed
    | _ => .error .malformed

end

end Reader

/-- The value that a whole text writes. -/
def readChars (d : Dialect) (cs : List Char) : Except Fault Json :=
  match Reader.value d (2 * cs.length + 2) d.nesting cs with
  | .ok (v, rest) => if Reader.skip rest = [] then .ok v else .error .malformed
  | .error fault => .error fault

/-- The value that a whole text writes, if it writes one. -/
def read? (d : Dialect) (s : String) : Option Json :=
  (readChars d s.toList).toOption

end Teardown.Json
