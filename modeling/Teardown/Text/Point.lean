import Teardown.Text.Quoted

/-!
# Texts with halves of surrogate pairs

A text that comes from outside may hold halves of surrogate pairs that stand alone. No character
stands for such a half, so that the text cannot be encoded. What is reported then is the first
half together with those that follow it directly.
-/

namespace Teardown.Text

/-- A character, or half of a surrogate pair that stands alone. -/
inductive Point where
  | char (c : Char)
  /-- The number counts from the first half, U+D800. -/
  | half (number : Fin 0x800)
deriving DecidableEq, Repr

namespace Point

/-- The character that a point is, if it is one. -/
def char? : Point → Option Char
  | .char c => some c
  | .half _ => none

end Point

/-- The points of a text, all of them characters. -/
def points (s : String) : List Point :=
  s.toList.map .char

/-- Why points are not encoded. -/
structure Unencodable where
  /-- How many points stand before the first half. -/
  position : Nat
  half : Fin 0x800
  /-- How many halves follow the first one directly. -/
  more : Nat
deriving DecidableEq, Repr

/-- What is said of points that are not encoded. -/
def Unencodable.message (u : Unencodable) : String :=
  let place :=
    if u.more = 0 then
      "character '\\u" ++ String.ofList (hexDigits 4 (0xD800 + u.half)) ++ "' in position " ++
        toString u.position
    else
      "characters in position " ++ toString u.position ++ "-" ++ toString (u.position + u.more)
  "'utf-8' codec can't encode " ++ place ++ ": surrogates not allowed"

/-- The text that points make up. -/
def ofPoints (ps : List Point) : Except Unencodable String :=
  let start := ps.takeWhile (·.char?.isSome)
  match ps.dropWhile (·.char?.isSome) with
  | .half number :: rest =>
    .error ⟨start.length, number, (rest.takeWhile (·.char?.isNone)).length⟩
  | _ => .ok (String.ofList (start.filterMap Point.char?))

end Teardown.Text
