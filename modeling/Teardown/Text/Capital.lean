/-!
# Case of names

Names are compared without regard to case. `capitalize` and `lowerCase` change ASCII letters and
those few characters beyond ASCII whose other case is made of ASCII letters (the dotless i, the
long s, the sharp s, the Latin ligatures and the Kelvin sign); a character whose other case is
not ASCII can never make a name equal to an ASCII name, so it stays as it is.
-/

namespace Teardown.Text

/-- The capital form of a character, as far as it is written in ASCII. -/
def capital (c : Char) : List Char :=
  match c.toNat with
  | 0x131 => ['I']
  | 0x17F => ['S']
  | 0xDF => ['S', 'S']
  | 0xFB00 => ['F', 'F']
  | 0xFB01 => ['F', 'I']
  | 0xFB02 => ['F', 'L']
  | 0xFB03 => ['F', 'F', 'I']
  | 0xFB04 => ['F', 'F', 'L']
  | 0xFB05 => ['S', 'T']
  | 0xFB06 => ['S', 'T']
  | _ => [c.toUpper]

/-- The text in capitals. -/
def capitalize (s : String) : String :=
  String.ofList (s.toList.flatMap capital)

/-- The text in small letters. -/
def lowerCase (s : String) : String :=
  String.ofList (s.toList.map fun c => if c.toNat = 0x212A then 'k' else c.toLower)

end Teardown.Text
