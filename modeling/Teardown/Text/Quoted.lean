import Teardown.Text.Printable

/-!
# Quoted texts

A quoted text stands between apostrophes, or between double quotes when it holds an apostrophe
and no double quote. The backslash and the quote in use are escaped, line feed, carriage return
and tab have letters of their own, and every other character that is not printable is written by
its code point in hexadecimal, with two, four or eight digits.
-/

namespace Teardown.Text

/-- The last `width` hexadecimal digits of `n`, in lower case. -/
def hexDigits (width n : Nat) : List Char :=
  (List.range width).reverse.map fun place => Nat.digitChar (n / Nat.pow 16 place % 16)

namespace Quoted

/-- The quote that a text is put between. -/
def mark (cs : List Char) : Char :=
  if cs.contains '\'' && !cs.contains '"' then '"' else '\''

/-- One character as it stands between two `quote`s. -/
def escape (quote c : Char) : List Char :=
  if c = '\\' || c = quote then ['\\', c]
  else if c = '\n' then ['\\', 'n']
  else if c = '\r' then ['\\', 'r']
  else if c = '\t' then ['\\', 't']
  else if isPrintable c then [c]
  else if c.toNat < 0x100 then '\\' :: 'x' :: hexDigits 2 c.toNat
  else if c.toNat < 0x10000 then '\\' :: 'u' :: hexDigits 4 c.toNat
  else '\\' :: 'U' :: hexDigits 8 c.toNat

/-- The characters of a text between its quotes. -/
def encode (cs : List Char) : List Char :=
  mark cs :: cs.flatMap (escape (mark cs)) ++ [mark cs]

end Quoted

/-- A text between quotes, with everything unprintable escaped. -/
def quoted (s : String) : String :=
  String.ofList (Quoted.encode s.toList)

end Teardown.Text
