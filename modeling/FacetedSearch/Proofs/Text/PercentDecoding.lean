import FacetedSearch.Text.Percent

/-!
# Percent encoding loses nothing

`decode?_encode` says that every text is read back from its encoding, whatever characters it holds.
`isBareChar_or_percent_of_mem_encode` says which characters an encoding is made of; the separators
of a query string are not among them.

Both follow the definition byte by byte: one lemma on `encodeByte`, carried along the bytes of a
text.
-/

namespace FacetedSearch.Text.Percent

/-- A character that stands for itself as a byte. -/
def IsBareChar (c : Char) : Prop := c.toNat < 256 ∧ isBare (UInt8.ofNat c.toNat) = true

instance (c : Char) : Decidable (IsBareChar c) := inferInstanceAs (Decidable (_ ∧ _))

/-! ## One byte -/

/-- A hexadecimal digit that is written has the value it was written for. -/
theorem hexValue?_hexDigit {n : Nat} (h : n < 16) : hexValue? (hexDigit n) = some n := by
  have all : ∀ m : Fin 16, hexValue? (hexDigit m) = some m.val := by decide
  exact all ⟨n, h⟩

/-- Hexadecimal digits are bare characters themselves. -/
theorem isBareChar_hexDigit {n : Nat} (h : n < 16) : IsBareChar (hexDigit n) := by
  have all : ∀ m : Fin 16, IsBareChar (hexDigit m) := by decide
  exact all ⟨n, h⟩

/-- The character of a byte has the byte as its code point. -/
theorem toNat_ofNat_toNat (b : UInt8) : (Char.ofNat b.toNat).toNat = b.toNat := by
  have hvalid : b.toNat.isValidChar := .inl (by have := b.toNat_lt; omega)
  rw [Char.ofNat, dif_pos hvalid]
  rfl

/-- A byte that stands for itself is written as a character of that sort. -/
theorem isBareChar_ofNat {b : UInt8} (h : isBare b = true) : IsBareChar (Char.ofNat b.toNat) := by
  have hb := b.toNat_lt
  rw [IsBareChar, toNat_ofNat_toNat, UInt8.ofNat_toNat]
  exact ⟨hb, h⟩

/-- No character that stands for itself is a percent sign. -/
theorem IsBareChar.ne_percent {c : Char} (h : IsBareChar c) : c ≠ '%' := by
  rintro rfl
  revert h
  decide

/-- A bare character at the head of a text is read as its byte. -/
theorem decodeBytes?_cons_of_isBareChar {c : Char} (h : IsBareChar c) (rest : List Char) :
    decodeBytes? (c :: rest) = (decodeBytes? rest).map (UInt8.ofNat c.toNat :: ·) := by
  rw [decodeBytes?]
  · exact if_pos h
  -- The case of a percent sign comes first in the definition, and a bare character is none.
  · intro _ _ _ hc
    exact absurd hc h.ne_percent

/-- An encoded byte at the head of a text is read as that byte. -/
theorem decodeBytes?_encodeByte_append (b : UInt8) (rest : List Char) :
    decodeBytes? (encodeByte b ++ rest) = (decodeBytes? rest).map (b :: ·) := by
  have hb := b.toNat_lt
  by_cases hbare : isBare b = true
  · rw [encodeByte, if_pos hbare, List.singleton_append,
      decodeBytes?_cons_of_isBareChar (isBareChar_ofNat hbare), toNat_ofNat_toNat,
      UInt8.ofNat_toNat]
  -- The two digits are those of the quotient and the remainder by sixteen.
  · have hhigh : b.toNat / 16 < 16 := by omega
    have hlow : b.toNat % 16 < 16 := by omega
    have hvalue : UInt8.ofNat (16 * (b.toNat / 16) + b.toNat % 16) = b := by
      rw [Nat.div_add_mod, UInt8.ofNat_toNat]
    rw [encodeByte, if_neg hbare]
    simp only [List.cons_append, List.nil_append, decodeBytes?, hexValue?_hexDigit hhigh,
      hexValue?_hexDigit hlow, Option.bind_eq_bind, Option.bind_some, hvalue]
    cases decodeBytes? rest <;> rfl

/-! ## A text -/

/-- Encoded bytes are decoded to the bytes. -/
theorem decodeBytes?_encodeBytes (bytes : List UInt8) :
    decodeBytes? (encodeBytes bytes) = some bytes := by
  induction bytes with
  | nil => rfl
  | cons b bytes ih =>
    rw [encodeBytes, List.flatMap_cons, decodeBytes?_encodeByte_append, ← encodeBytes, ih]
    rfl

/-- The bytes of a text are valid and make up the text. -/
theorem fromUTF8?_utf8Bytes (s : String) :
    String.fromUTF8? ⟨(utf8Bytes s).toArray⟩ = some s := by
  have hbytes : (⟨(utf8Bytes s).toArray⟩ : ByteArray) = s.toByteArray := by
    simp [utf8Bytes]
  rw [hbytes, String.fromUTF8?, dif_pos s.isValidUTF8]
  rfl

/-- Every text is read back from its encoding. -/
@[simp]
theorem decode?_encode (s : String) : decode? (encode s) = some s := by
  simp only [decode?, encode, String.toList_ofList, decodeBytes?_encodeBytes, Option.bind_eq_bind,
    Option.bind_some, fromUTF8?_utf8Bytes]

/-- No two texts have one encoding. -/
theorem encode_injective {s t : String} (h : encode s = encode t) : s = t := by
  have hdecoded : some s = some t := by rw [← decode?_encode s, h, decode?_encode]
  exact Option.some.inj hdecoded

/-! ## The characters of an encoding -/

/-- An encoded byte is made of percent signs and characters that stand for themselves. -/
theorem isBareChar_or_percent_of_mem_encodeByte {b : UInt8} {c : Char} (h : c ∈ encodeByte b) :
    IsBareChar c ∨ c = '%' := by
  have hb := b.toNat_lt
  by_cases hbare : isBare b = true
  · rw [encodeByte, if_pos hbare, List.mem_singleton] at h
    exact .inl (h ▸ isBareChar_ofNat hbare)
  · rw [encodeByte, if_neg hbare] at h
    simp only [List.mem_cons, List.not_mem_nil, or_false] at h
    rcases h with rfl | rfl | rfl
    · exact .inr rfl
    · exact .inl (isBareChar_hexDigit (by omega))
    · exact .inl (isBareChar_hexDigit (by omega))

/-- An encoding holds bare characters and percent signs only. -/
theorem isBareChar_or_percent_of_mem_encode {s : String} {c : Char} (h : c ∈ (encode s).toList) :
    IsBareChar c ∨ c = '%' := by
  rw [encode, String.toList_ofList, encodeBytes, List.mem_flatMap] at h
  obtain ⟨b, _, hc⟩ := h
  exact isBareChar_or_percent_of_mem_encodeByte hc

/-- No other character occurs in an encoded text. -/
theorem not_mem_encode {s : String} {c : Char} (hbare : ¬IsBareChar c) (hpercent : c ≠ '%') :
    c ∉ (encode s).toList := by
  intro h
  rcases isBareChar_or_percent_of_mem_encode h with h | h
  · exact hbare h
  · exact hpercent h

/-- No encoding holds the sign between two pairs. -/
theorem ampersand_not_mem_encode (s : String) : '&' ∉ (encode s).toList :=
  not_mem_encode (by decide) (by decide)

/-- No encoding holds the sign between a key and its value. -/
theorem equals_not_mem_encode (s : String) : '=' ∉ (encode s).toList :=
  not_mem_encode (by decide) (by decide)

end FacetedSearch.Text.Percent
