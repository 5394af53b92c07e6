import Teardown.Text.Encoding

/-!
# Percent encoding

In an address a character outside a safe set is written by its UTF-8 bytes, each as a percent
sign and two hexadecimal digits. In the value of a form a space is written as a plus sign; the
fields of a form stand between ampersands, each a name and a value with an equals sign between
them.
-/

namespace Teardown.Text

/-- One byte as a percent sign and two capital hexadecimal digits. -/
def percentByte (b : UInt8) : List Char :=
  ['%', (Nat.digitChar (b.toNat / 16)).toUpper, (Nat.digitChar (b.toNat % 16)).toUpper]

/-- Writes every character outside the safe set by its bytes. -/
def percentEncode (safe : Char → Bool) (s : String) : String :=
  String.ofList (s.toList.flatMap fun c =>
    if safe c then [c] else (String.utf8EncodeChar c).flatMap percentByte)

/-- The characters that need no encoding anywhere in an address. -/
def isUnreserved (c : Char) : Bool :=
  c.isAlphanum || c == '-' || c == '.' || c == '_' || c == '~'

/-- The value of a form field. -/
def formEncode (s : String) : String :=
  String.ofList (s.toList.flatMap fun c =>
    if isUnreserved c then [c]
    else if c = ' ' then ['+']
    else (String.utf8EncodeChar c).flatMap percentByte)

/-- The value of a hexadecimal digit. -/
def hexDigit? (c : Char) : Option Nat :=
  if c.isDigit then some (c.toNat - 48)
  else if 'a' ≤ c ∧ c ≤ 'f' then some (c.toNat - 87)
  else if 'A' ≤ c ∧ c ≤ 'F' then some (c.toNat - 55)
  else none

/-- The bytes of an encoded text; a percent sign without two hexadecimal digits stands for
itself. -/
def percentBytes : List Char → List UInt8
  | [] => []
  | '%' :: a :: b :: rest =>
    match hexDigit? a, hexDigit? b with
    | some x, some y => UInt8.ofNat (16 * x + y) :: percentBytes rest
    | _, _ => 0x25 :: percentBytes (a :: b :: rest)
  | c :: rest => String.utf8EncodeChar c ++ percentBytes rest

/-- The number of bytes that a broken UTF-8 sequence loses before reading goes on. -/
def brokenLength : List UInt8 → Nat
  | a :: b :: rest =>
    let n := a.toNat
    let low := if n = 0xE0 then 0xA0 else if n = 0xF0 then 0x90 else 0x80
    let high := if n = 0xED then 0x9F else if n = 0xF4 then 0x8F else 0xBF
    if 0xE0 ≤ n ∧ n < 0xF5 ∧ low ≤ b.toNat ∧ b.toNat ≤ high then
      match rest with
      | c :: _ => if 0xF0 ≤ n ∧ (continuation? c).isSome then 3 else 2
      | [] => 2
    else 1
  | _ => 1

/-- Decodes UTF-8 and puts U+FFFD in the place of every broken sequence. -/
def decodeLenient : Nat → List UInt8 → List Char
  | 0, _ => []
  | _, [] => []
  | fuel + 1, a :: rest =>
    let bytes := a :: rest
    let width := if a.toNat < 0x80 then 1 else if a.toNat < 0xE0 then 2
      else if a.toNat < 0xF0 then 3 else 4
    match decodeUtf8 (bytes.take width) with
    | some [c] =>
      if c = '\ufffd' ∧ bytes.take 3 ≠ [0xEF, 0xBF, 0xBD] then '\ufffd' :: decodeLenient fuel rest
      else c :: decodeLenient fuel (bytes.drop width)
    | _ => '\ufffd' :: decodeLenient fuel (bytes.drop (brokenLength bytes))

/-- The text that an encoded text stands for. -/
def percentDecode (s : String) : String :=
  let bytes := percentBytes s.toList
  String.ofList (decodeLenient bytes.length bytes)

/-- The text that a part of a form stands for. -/
def formDecode (s : String) : String :=
  percentDecode (s.map fun c => if c = '+' then ' ' else c)

/-- The name and the value that a field of a form stands for; a field without an equals sign has
an empty value. -/
def formField (field : String) : String × String :=
  let cs := field.toList
  (formDecode (String.ofList (cs.takeWhile (· != '='))),
    formDecode (String.ofList ((cs.dropWhile (· != '=')).drop 1)))

/-- The fields of a form in their order; nothing between two ampersands is no field. -/
def formFields (form : String) : List (String × String) :=
  ((form.splitOn "&").filter (· ≠ "")).map formField

end Teardown.Text
