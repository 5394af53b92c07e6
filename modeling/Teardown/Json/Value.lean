/-!
# Values of tasks, answers and calls

A value is null, a boolean, an integer of any size, a 64-bit float, a text, a list of values or
an object. The members of an object keep their order, and no key occurs twice in an object that
was built with `setMember`.
-/

namespace Teardown

/-- A structured value. -/
inductive Json where
  | null
  | bool (b : Bool)
  | int (n : Int)
  | float (x : Float)
  | str (s : String)
  | arr (items : List Json)
  | obj (members : List (String × Json))
deriving Inhabited, Repr

namespace Json

/-- The members of an object in their order. -/
abbrev Members := List (String × Json)

/-- Sets one member: a new key goes to the end, a present key keeps its place. -/
def setMember (key : String) (v : Json) : Members → Members
  | [] => [(key, v)]
  | (k, w) :: rest => if k = key then (k, v) :: rest else (k, w) :: setMember key v rest

/-- The members after setting them one by one. -/
def ofPairs (pairs : List (String × Json)) : Members :=
  pairs.foldl (fun members pair => setMember pair.1 pair.2 members) []

/-- The value under a key. -/
def member? (key : String) (members : Members) : Option Json :=
  members.lookup key

/-- The value under a key of an object; nothing for a value that is no object. -/
def get? (key : String) : Json → Option Json
  | .obj members => member? key members
  | _ => none

/-- An optional text, null when it is absent. -/
def ofText? : Option String → Json
  | none => .null
  | some s => .str s

/-- A list of texts. -/
def ofTexts (texts : List String) : Json :=
  .arr (texts.map .str)

/-- Null, false, zero and everything empty. -/
def isEmptyish : Json → Bool
  | .null => true
  | .bool b => !b
  | .int n => n == 0
  | .float x => x == 0.0
  | .str s => s.isEmpty
  | .arr items => items.isEmpty
  | .obj members => members.isEmpty

end Json

end Teardown
