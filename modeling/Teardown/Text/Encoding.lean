/-!
# Encoded texts

A body of bytes is read as text in the encoding that its first bytes show: a byte order mark, or
the pattern of zero bytes that a text starting with two ASCII characters has in the wider
encodings. Without such a sign it is UTF-8. Half of a surrogate pair may be encoded on its own;
it is read as U+FFFD, since no character stands for it.
-/

namespace Teardown.Text

/-- The encodings of a body. -/
inductive Encoding where
  | utf8
  | utf16 (littleEndian : Bool)
  | utf32 (littleEndian : Bool)
deriving DecidableEq, Repr

/-- The character with a code point; half of a surrogate pair becomes U+FFFD. -/
def charOfCode? (n : Nat) : Option Char :=
  if 0xD800 ≤ n ∧ n ≤ 0xDFFF then some '\ufffd'
  else if n ≤ 0x10FFFF then some (Char.ofNat n)
  else none

/-- The payload of a continuation byte of UTF-8. -/
def continuation? (b : UInt8) : Option Nat :=
  if b.toNat / 64 = 2 then some (b.toNat % 64) else none

/-- Decodes UTF-8; longer forms than necessary are refused. -/
def decodeUtf8 : List UInt8 → Option (List Char)
  | [] => some []
  | a :: rest =>
    let n := a.toNat
    if n < 0x80 then (decodeUtf8 rest).map (Char.ofNat n :: ·)
    else if 0xC2 ≤ n ∧ n < 0xE0 then
      match rest with
      | b :: rest => do
        let y ← continuation? b
        let c ← charOfCode? ((n - 0xC0) * 64 + y)
        return c :: (← decodeUtf8 rest)
      | _ => none
    else if 0xE0 ≤ n ∧ n < 0xF0 then
      match rest with
      | b :: c :: rest => do
        let y ← continuation? b
        let z ← continuation? c
        let code := ((n - 0xE0) * 64 + y) * 64 + z
        if code < 0x800 then none
        let c ← charOfCode? code
        return c :: (← decodeUtf8 rest)
      | _ => none
    else if 0xF0 ≤ n ∧ n < 0xF5 then
      match rest with
      | b :: c :: d :: rest => do
        let x ← continuation? b
        let y ← continuation? c
        let z ← continuation? d
        let code := (((n - 0xF0) * 64 + x) * 64 + y) * 64 + z
        if code < 0x10000 then none
        let c ← charOfCode? code
        return c :: (← decodeUtf8 rest)
      | _ => none
    else none

/-- Groups bytes to 16-bit units. -/
def units16 (littleEndian : Bool) : List UInt8 → Option (List Nat)
  | [] => some []
  | [_] => none
  | a :: b :: rest => do
    let n := if littleEndian then b.toNat * 256 + a.toNat else a.toNat * 256 + b.toNat
    return n :: (← units16 littleEndian rest)

/-- Joins 16-bit units to characters. -/
def joinUnits : List Nat → List Char
  | [] => []
  | [n] => [(charOfCode? n).getD '\ufffd']
  | n :: m :: rest =>
    if 0xD800 ≤ n ∧ n ≤ 0xDBFF ∧ 0xDC00 ≤ m ∧ m ≤ 0xDFFF then
      Char.ofNat (0x10000 + (n - 0xD800) * 0x400 + (m - 0xDC00)) :: joinUnits rest
    else (charOfCode? n).getD '\ufffd' :: joinUnits (m :: rest)

/-- Decodes UTF-32. -/
def decodeUtf32 (littleEndian : Bool) : List UInt8 → Option (List Char)
  | [] => some []
  | a :: b :: c :: d :: rest => do
    let n :=
      if littleEndian then ((d.toNat * 256 + c.toNat) * 256 + b.toNat) * 256 + a.toNat
      else ((a.toNat * 256 + b.toNat) * 256 + c.toNat) * 256 + d.toNat
    let ch ← charOfCode? n
    return ch :: (← decodeUtf32 littleEndian rest)
  | _ => none

/-- The encoding that the first bytes show, and the bytes after a byte order mark. -/
def detect (bytes : List UInt8) : Encoding × List UInt8 :=
  match bytes with
  | 0xFF :: 0xFE :: 0 :: 0 :: rest => (.utf32 true, rest)
  | 0 :: 0 :: 0xFE :: 0xFF :: rest => (.utf32 false, rest)
  | 0xFF :: 0xFE :: rest => (.utf16 true, rest)
  | 0xFE :: 0xFF :: rest => (.utf16 false, rest)
  | 0xEF :: 0xBB :: 0xBF :: rest => (.utf8, rest)
  | a :: b :: c :: d :: _ =>
    if a = 0 then (if b = 0 then .utf32 false else .utf16 false, bytes)
    else if b = 0 then (if c = 0 ∧ d = 0 then .utf32 true else .utf16 true, bytes)
    else (.utf8, bytes)
  | [a, b] =>
    if a = 0 then (.utf16 false, bytes) else if b = 0 then (.utf16 true, bytes) else (.utf8, bytes)
  | _ => (.utf8, bytes)

/-- The characters of a body, if its bytes are well formed. -/
def decode (bytes : List UInt8) : Option (List Char) :=
  match detect bytes with
  | (.utf8, rest) => decodeUtf8 rest
  | (.utf16 littleEndian, rest) => (units16 littleEndian rest).map joinUnits
  | (.utf32 littleEndian, rest) => decodeUtf32 littleEndian rest

/-- The UTF-8 bytes of a text. -/
def encode (s : String) : List UInt8 :=
  s.toList.flatMap String.utf8EncodeChar

end Teardown.Text
