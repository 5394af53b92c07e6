import Teardown.Decimal.Layout
import Teardown.Json.Value
import Teardown.Text.Quoted

/-!
# Writing values as compact text

Members are written in their order, without any layout. In texts only the quote, the backslash
and the control characters below U+0020 are escaped. Floats have the fewest digits that identify
them; infinities and values that are not a number have no written form and become `null`.
-/

namespace Teardown.Json

namespace Writer

/-- One character of a text. -/
def escape (c : Char) : List Char :=
  if c = '"' then ['\\', '"']
  else if c = '\\' then ['\\', '\\']
  else if c = '\x08' then ['\\', 'b']
  else if c = '\x0c' then ['\\', 'f']
  else if c = '\n' then ['\\', 'n']
  else if c = '\r' then ['\\', 'r']
  else if c = '\t' then ['\\', 't']
  else if c.toNat < 0x20 then '\\' :: 'u' :: Text.hexDigits 4 c.toNat
  else [c]

/-- A text between its quotes. -/
def text (s : String) : List Char :=
  '"' :: s.toList.flatMap escape ++ ['"']

/-- The digits of an integer after its sign. -/
def int (n : Int) : List Char :=
  (if n < 0 then ['-'] else []) ++ Nat.toDigits 10 n.natAbs

/-- A finite float by its digits, any other float as `null`. -/
def float (x : Float) : List Char :=
  match Decimal.Reading.ofFloat x with
  | .notANumber => "null".toList
  | .infinite _ => "null".toList
  | _ => (Decimal.Layout.taskText.render x).toList

mutual

/-- The characters of a value. -/
def value : Json → List Char
  | .null => "null".toList
  | .bool b => if b then "true".toList else "false".toList
  | .int n => int n
  | .float x => float x
  | .str s => text s
  | .arr [] => ['[', ']']
  | .arr (v :: vs) => '[' :: value v ++ items vs
  | .obj [] => ['\x7b', '\x7d']
  | .obj ((key, v) :: rest) => '\x7b' :: text key ++ ':' :: value v ++ members rest

/-- The values of a list after the first, and the closing bracket. -/
def items : List Json → List Char
  | [] => [']']
  | v :: vs => ',' :: value v ++ items vs

/-- The members of an object after the first, and the closing brace. -/
def members : List (String × Json) → List Char
  | [] => ['\x7d']
  | (key, v) :: rest => ',' :: text key ++ ':' :: value v ++ members rest

end

end Writer

/-- The compact text of a value. -/
def compact (v : Json) : String :=
  String.ofList (Writer.value v)

end Teardown.Json
