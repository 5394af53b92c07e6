import Teardown.Decimal.Layout
import Teardown.Json.Value
import Teardown.Text.Quoted

/-!
# Values in messages

In a message a text stands as it is and every other value in its display form: `None`, `True`
and `False` for the constants, floats by their shortest digits, and lists and objects with their
parts in display form, where texts are quoted.
-/

namespace Teardown.Json

namespace Display

mutual

/-- The display form of a value inside another one. -/
def nested : Json → String
  | .null => "None"
  | .bool b => if b then "True" else "False"
  | .int n => toString n
  | .float x => Decimal.display x
  | .str s => Text.quoted s
  | .arr [] => "[]"
  | .arr (v :: vs) => "[" ++ nested v ++ items vs
  | .obj [] => "\x7b\x7d"
  | .obj ((key, v) :: rest) => "\x7b" ++ Text.quoted key ++ ": " ++ nested v ++ members rest

/-- The values of a list after the first, and the closing bracket. -/
def items : List Json → String
  | [] => "]"
  | v :: vs => ", " ++ nested v ++ items vs

/-- The members of an object after the first, and the closing brace. -/
def members : List (String × Json) → String
  | [] => "\x7d"
  | (key, v) :: rest => ", " ++ Text.quoted key ++ ": " ++ nested v ++ members rest

end

end Display

/-- A value as it stands in a message. -/
def display : Json → String
  | .str s => s
  | v => Display.nested v

end Teardown.Json
