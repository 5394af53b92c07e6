import Teardown.Text.Quoted

/-!
# Texts that have to be ASCII

A header holds ASCII characters only. `asciiFault?` describes the first run of other characters
in a text.
-/

namespace Teardown.Text

/-- What keeps a text from being ASCII: its first run of characters beyond ASCII. -/
def asciiFault? (s : String) : Option String :=
  let start := (s.toList.takeWhile fun c => c.toNat < 128).length
  let run := (s.toList.drop start).takeWhile fun c => 128 ≤ c.toNat
  let ending := ": ordinal not in range(128)"
  match run with
  | [] => none
  | [c] =>
    let code := c.toNat
    let shown :=
      if code < 0x100 then "\\x" ++ String.ofList (hexDigits 2 code)
      else if code < 0x10000 then "\\u" ++ String.ofList (hexDigits 4 code)
      else "\\U" ++ String.ofList (hexDigits 8 code)
    some ("'ascii' codec can't encode character '" ++ shown ++ "' in position " ++ toString start ++
      ending)
  | _ =>
    some ("'ascii' codec can't encode characters in position " ++ toString start ++ "-" ++
      toString (start + run.length - 1) ++ ending)

end Teardown.Text
