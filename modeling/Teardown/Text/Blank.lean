/-!
# Blank characters and stripping

A blank character is one that carries no ink: the separators of Unicode together with the
ASCII control characters that delimit lines, fields and records. Texts given by operators are
compared after `strip`, which drops blank characters at both ends.

`isSpace` is the narrower White_Space property, which leaves out the four information
separators U+001C to U+001F; numbers written as text may be surrounded by those characters only.
-/

namespace Teardown.Text

/-- The characters of the Unicode property White_Space. -/
def isSpace (c : Char) : Bool :=
  let n := c.toNat
  (9 ≤ n && n ≤ 13) || n == 0x20 || n == 0x85 || n == 0xA0 || n == 0x1680 ||
    (0x2000 ≤ n && n ≤ 0x200A) || n == 0x2028 || n == 0x2029 || n == 0x202F || n == 0x205F ||
    n == 0x3000

/-- A blank character: White_Space or one of the four information separators. -/
def isBlank (c : Char) : Bool :=
  isSpace c || (0x1C ≤ c.toNat && c.toNat ≤ 0x1F)

/-- The characters left after dropping those that satisfy `p` at both ends. -/
def trimBoth (p : Char → Bool) (cs : List Char) : List Char :=
  (((cs.dropWhile p).reverse).dropWhile p).reverse

/-- The text without blank characters at its two ends. -/
def strip (s : String) : String :=
  String.ofList (trimBoth isBlank s.toList)

/-- The text without blank characters at its end. -/
def stripEnd (s : String) : String :=
  String.ofList ((s.toList.reverse.dropWhile isBlank).reverse)

/-- A text with nothing in it but blank characters. -/
def isAllBlank (s : String) : Bool :=
  s.toList.all isBlank

end Teardown.Text
