/-!
# Percent encoding

A component of a query string is written byte by byte, as UTF-8. A bare byte stands for itself;
every other byte becomes `%` and two upper-case hexadecimal digits. `encode` writes a component and
`decode` reads one back.

`encode_append` says that the encoding of a text is the encoding of its parts, side by side.
-/

namespace FacetedSearch.Text.Percent

/-- The bytes that stand for themselves: ASCII letters, digits and the marks `- _ . ! ~ * ' ( )`. -/
def isBare (b : UInt8) : Bool :=
  (0x61 ≤ b && b ≤ 0x7a) || (0x41 ≤ b && b ≤ 0x5a) || (0x30 ≤ b && b ≤ 0x39) ||
    b == 0x2d || b == 0x5f || b == 0x2e || b == 0x21 || b == 0x7e || b == 0x2a || b == 0x27 ||
    b == 0x28 || b == 0x29

/-- The upper-case hexadecimal digit of a number below sixteen. -/
def hexDigit (n : Nat) : Char :=
  Char.ofNat (if n < 10 then 0x30 + n else 0x37 + n)

/-- The value of an upper-case hexadecimal digit. -/
def hexValue? (c : Char) : Option Nat :=
  if '0' ≤ c ∧ c ≤ '9' then some (c.toNat - 0x30)
  else if 'A' ≤ c ∧ c ≤ 'F' then some (c.toNat - 0x37)
  else none

/-- One byte, bare or as `%` and two digits. -/
def encodeByte (b : UInt8) : List Char :=
  if isBare b then [Char.ofNat b.toNat]
  else ['%', hexDigit (b.toNat / 16), hexDigit (b.toNat % 16)]

/-- Bytes, one after the other. -/
def encodeBytes (bytes : List UInt8) : List Char :=
  bytes.flatMap encodeByte

/-- The UTF-8 bytes of a text. -/
def utf8Bytes (s : String) : List UInt8 :=
  s.toByteArray.data.toList

/-- A text as a component of a query string. -/
def encode (s : String) : String :=
  String.ofList (encodeBytes (utf8Bytes s))

/-- The bytes that encoded text stands for. An unfinished or misspelt `%` group has none, and
neither has a character that would not stand bare. -/
def decodeBytes? : List Char → Option (List UInt8)
  | [] => some []
  | '%' :: high :: low :: rest => do
    let h ← hexValue? high
    let l ← hexValue? low
    let bytes ← decodeBytes? rest
    some (UInt8.ofNat (16 * h + l) :: bytes)
  | c :: rest =>
    if c.toNat < 256 ∧ isBare (UInt8.ofNat c.toNat) then
      (decodeBytes? rest).map (UInt8.ofNat c.toNat :: ·)
    else none

/-- The text that a component stands for. -/
def decode? (s : String) : Option String := do
  let bytes ← decodeBytes? s.toList
  String.fromUTF8? ⟨bytes.toArray⟩

/-- Bytes are encoded one by one, so a concatenation is encoded part by part. -/
theorem encodeBytes_append (xs ys : List UInt8) :
    encodeBytes (xs ++ ys) = encodeBytes xs ++ encodeBytes ys := by
  simp [encodeBytes]

theorem utf8Bytes_append (s t : String) : utf8Bytes (s ++ t) = utf8Bytes s ++ utf8Bytes t := by
  simp [utf8Bytes]

/-- The encoding of a concatenation is that of its parts. -/
theorem encode_append (s t : String) : encode (s ++ t) = encode s ++ encode t := by
  simp [encode, utf8Bytes_append, encodeBytes_append]

end FacetedSearch.Text.Percent
