import FacetedSearch.Proofs.Text.PercentDecoding

/-!
# Which texts are encodings

A component is spelled with bare characters and with groups, a group being a percent sign and two
upper-case hexadecimal digits. `Spells` relates such a text to the bytes that it stands for, and is
what decoding follows (`decodeBytes?_eq_some_iff`).

The same bytes may be spelled in more than one way, because a group can stand for a character that
is written bare. An encoding holds no such group (`IsTight`), and that makes it the only tight
spelling of its bytes (`eq_encodeBytes_iff`). So the encodings are the tight spellings of UTF-8, and
no others (`encode_canonical`).
-/

namespace FacetedSearch.Text.Percent

/-! ## Spellings -/

/-- The marks that are written bare. -/
def marks : List Char := ['-', '_', '.', '!', '~', '*', '\x27', '(', ')']

/-- The characters that are written bare: ASCII letters, digits and marks. -/
def IsWrittenBare (c : Char) : Prop := c.isAlphanum = true ∨ c ∈ marks

/-- A text of bare characters and groups, and the bytes that it stands for. -/
inductive Spells : List Char → List UInt8 → Prop where
  | nil : Spells [] []
  | bare {c : Char} {rest : List Char} {bytes : List UInt8} (hc : IsWrittenBare c)
      (hrest : Spells rest bytes) : Spells (c :: rest) (UInt8.ofNat c.toNat :: bytes)
  | group {high low : Char} {h l : Nat} {rest : List Char} {bytes : List UInt8}
      (hhigh : hexValue? high = some h) (hlow : hexValue? low = some l) (hrest : Spells rest bytes) :
      Spells ('%' :: high :: low :: rest) (UInt8.ofNat (16 * h + l) :: bytes)

/-- The group of a byte. -/
def group (b : UInt8) : List Char := ['%', hexDigit (b.toNat / 16), hexDigit (b.toNat % 16)]

/-- A text in which no group stands for a character that is written bare. -/
def IsTight (t : List Char) : Prop :=
  ∀ c, IsWrittenBare c → ¬group (UInt8.ofNat c.toNat) <:+: t

/-! ## Bare characters -/

/-- Characters that are written bare are in the ASCII range. -/
theorem toNat_lt_of_isWrittenBare {c : Char} (h : IsWrittenBare c) : c.toNat < 128 := by
  have hupper : c.isUpper = true → c.toNat ≤ 90 := fun h => (of_decide_eq_true h).2
  have hlower : c.isLower = true → c.toNat ≤ 122 := fun h =>
    of_decide_eq_true (Bool.and_eq_true_iff.mp h).2
  have hdigit : c.isDigit = true → c.toNat ≤ 57 := fun h =>
    of_decide_eq_true (Bool.and_eq_true_iff.mp h).2
  rcases h with h | h
  · rcases Bool.or_eq_true_iff.mp h with halpha | h
    · rcases Bool.or_eq_true_iff.mp halpha with h | h
      · exact Nat.lt_of_le_of_lt (hupper h) (by decide)
      · exact Nat.lt_of_le_of_lt (hlower h) (by decide)
    · exact Nat.lt_of_le_of_lt (hdigit h) (by decide)
  · have hmarks : ∀ d ∈ marks, d.toNat < 128 := by simp [marks]
    exact hmarks c h

/-- Bytes that are written bare are in the ASCII range. -/
theorem toNat_lt_of_isBare {b : UInt8} (h : isBare b = true) : b.toNat < 128 := by
  simp only [isBare, Bool.or_eq_true, Bool.and_eq_true, decide_eq_true_eq, beq_iff_eq,
    UInt8.le_iff_toNat_le, ← UInt8.toNat_inj, UInt8.reduceToNat] at h
  omega

/-- The bytes that are written bare are those of the characters that are. -/
theorem isBareChar_iff_isWrittenBare {c : Char} : IsBareChar c ↔ IsWrittenBare c := by
  have hascii : ∀ n : Fin 128, IsBareChar (Char.ofNat n) ↔
      (Char.ofNat n).isAlphanum = true ∨ Char.ofNat n ∈ marks := by decide
  by_cases hc : c.toNat < 128
  · have hn := hascii ⟨c.toNat, hc⟩
    rwa [Char.ofNat_toNat] at hn
  · refine iff_of_false (fun hbare => hc ?_) fun hbare => hc (toNat_lt_of_isWrittenBare hbare)
    have hlt := toNat_lt_of_isBare hbare.2
    rwa [UInt8.toNat_ofNat', Nat.mod_eq_of_lt hbare.1] at hlt

/-- The character of a byte that is written bare is written bare. -/
theorem isWrittenBare_ofNat {b : UInt8} (h : isBare b = true) :
    IsWrittenBare (Char.ofNat b.toNat) := isBareChar_iff_isWrittenBare.mp (isBareChar_ofNat h)

/-- A character that is written bare is its own encoding. -/
theorem encodeByte_of_isWrittenBare {c : Char} (h : IsWrittenBare c) :
    encodeByte (UInt8.ofNat c.toNat) = [c] := by
  obtain ⟨hlt, hbare⟩ := isBareChar_iff_isWrittenBare.mpr h
  rw [encodeByte, if_pos hbare, UInt8.toNat_ofNat', Nat.mod_eq_of_lt hlt, Char.ofNat_toNat]

/-! ## Decoding follows the spelling -/

theorem le_iff_toNat_le {c d : Char} : c ≤ d ↔ c.toNat ≤ d.toNat := by
  rw [Char.le_def, UInt32.le_iff_toNat_le, Char.toNat_val, Char.toNat_val]

/-- Only the digits of `hexDigit` have a value. -/
theorem eq_hexDigit_of_hexValue? {c : Char} {n : Nat} (h : hexValue? c = some n) :
    n < 16 ∧ c = hexDigit n := by
  rw [hexValue?] at h
  split at h
  · rename_i hdigit
    simp only [le_iff_toNat_le, Char.reduceToNat] at hdigit
    obtain rfl : c.toNat - 0x30 = n := Option.some.inj h
    have hcode : 0x30 + (c.toNat - 0x30) = c.toNat := by omega
    refine ⟨by omega, ?_⟩
    rw [hexDigit, if_pos (by omega), hcode, Char.ofNat_toNat]
  · split at h
    · rename_i hletter
      simp only [le_iff_toNat_le, Char.reduceToNat] at hletter
      obtain rfl : c.toNat - 0x37 = n := Option.some.inj h
      have hcode : 0x37 + (c.toNat - 0x37) = c.toNat := by omega
      refine ⟨by omega, ?_⟩
      rw [hexDigit, if_neg (by omega), hcode, Char.ofNat_toNat]
    · cases h

/-- A text decodes to the bytes that it spells, and to none if it spells none. -/
theorem decodeBytes?_eq_some_iff {t : List Char} {bytes : List UInt8} :
    decodeBytes? t = some bytes ↔ Spells t bytes := by
  constructor
  · intro h
    fun_induction decodeBytes? t generalizing bytes with
    | case1 =>
      cases h
      exact .nil
    | case2 high low rest ih =>
      simp only [Option.bind_eq_bind, Option.bind_eq_some_iff, Option.some.injEq] at h
      obtain ⟨h, hhigh, l, hlow, tail, htail, rfl⟩ := h
      exact .group hhigh hlow (ih htail)
    | case3 c rest _ hbare ih =>
      obtain ⟨tail, htail, rfl⟩ := Option.map_eq_some_iff.mp h
      exact .bare (isBareChar_iff_isWrittenBare.mp hbare) (ih htail)
    | case4 => cases h
  · intro h
    induction h with
    | nil => rfl
    | bare hc _ ih =>
      rw [decodeBytes?_cons_of_isBareChar (isBareChar_iff_isWrittenBare.mpr hc), ih]
      rfl
    | group hhigh hlow _ ih =>
      simp only [decodeBytes?, hhigh, hlow, ih, Option.bind_eq_bind, Option.bind_some]

/-- Bytes make up a text if and only if they are the bytes of that text. -/
theorem fromUTF8?_eq_some_iff {bytes : List UInt8} {s : String} :
    String.fromUTF8? ⟨bytes.toArray⟩ = some s ↔ utf8Bytes s = bytes := by
  constructor
  · intro h
    rw [String.fromUTF8?] at h
    split at h
    · cases h
      rfl
    · cases h
  · rintro rfl
    exact fromUTF8?_utf8Bytes s

/-- A text is decoded to the one whose bytes it spells. -/
theorem decode?_eq_some_iff {t s : String} : decode? t = some s ↔ Spells t.toList (utf8Bytes s) := by
  simp only [decode?, Option.bind_eq_bind, Option.bind_eq_some_iff, decodeBytes?_eq_some_iff,
    fromUTF8?_eq_some_iff, exists_eq_right']

/-! ## Encodings are tight -/

/-- The tight spelling of bytes is their encoding. -/
theorem eq_encodeBytes_of_isTight {t : List Char} {bytes : List UInt8} (h : Spells t bytes)
    (htight : IsTight t) : t = encodeBytes bytes := by
  induction h with
  | nil => rfl
  | @bare c rest bytes hc hrest ih =>
    have hbehind : IsTight rest := fun d hd hfound =>
      htight d hd (List.infix_cons_iff.mpr (.inr hfound))
    rw [encodeBytes, List.flatMap_cons, encodeByte_of_isWrittenBare hc, ← encodeBytes, ← ih hbehind]
    rfl
  | @group high low h l rest bytes hhigh hlow hrest ih =>
    obtain ⟨hh, rfl⟩ := eq_hexDigit_of_hexValue? hhigh
    obtain ⟨hl, rfl⟩ := eq_hexDigit_of_hexValue? hlow
    have hbyte : (UInt8.ofNat (16 * h + l)).toNat = 16 * h + l := by
      rw [UInt8.toNat_ofNat', Nat.mod_eq_of_lt (by omega)]
    have hgroup : group (UInt8.ofNat (16 * h + l)) = ['%', hexDigit h, hexDigit l] := by
      have hquotient : (16 * h + l) / 16 = h := by omega
      have hremainder : (16 * h + l) % 16 = l := by omega
      rw [group, hbyte, hquotient, hremainder]
    -- A bare character in this place would be spelled as a group.
    have hbare : ¬isBare (UInt8.ofNat (16 * h + l)) = true := by
      intro hbare
      refine htight _ (isWrittenBare_ofNat hbare) ?_
      rw [toNat_ofNat_toNat, UInt8.ofNat_toNat, hgroup]
      exact (List.prefix_append _ _).isInfix
    have hbehind : IsTight rest := fun c hc hfound =>
      htight c hc (hfound.trans (List.suffix_append ['%', hexDigit h, hexDigit l] rest).isInfix)
    rw [encodeBytes, List.flatMap_cons, encodeByte, if_neg hbare, ← group, hgroup, ← encodeBytes,
      ← ih hbehind]
    rfl

/-- Different numbers below sixteen have different digits. -/
theorem hexDigit_injective {m n : Nat} (hm : m < 16) (hn : n < 16) (h : hexDigit m = hexDigit n) :
    m = n := by
  have hvalue : some m = some n := by rw [← hexValue?_hexDigit hm, h, hexValue?_hexDigit hn]
  exact Option.some.inj hvalue

/-- Different bytes are escaped as different groups. -/
theorem group_injective : Function.Injective group := by
  intro b d h
  have hb := b.toNat_lt
  have hd := d.toNat_lt
  simp only [group, List.cons.injEq, true_and, and_true] at h
  have hhigh := hexDigit_injective (by omega) (by omega) h.1
  have hlow := hexDigit_injective (by omega) (by omega) h.2
  exact UInt8.toNat_inj.mp (by omega)

/-- A group begins with a percent sign. -/
theorem not_group_isPrefix_cons {c : Char} (h : c ≠ '%') (b : UInt8) (rest : List Char) :
    ¬group b <+: c :: rest := by
  rintro ⟨behind, hbehind⟩
  exact h (List.cons.inj hbehind).1.symm

/-- A group in front of a text is met again only there or behind it. -/
theorem group_isInfix_group_append {b d : UInt8} {rest : List Char}
    (h : group d <:+: group b ++ rest) : d = b ∨ group d <:+: rest := by
  have hb := b.toNat_lt
  have hhigh := (isBareChar_hexDigit (n := b.toNat / 16) (by omega)).ne_percent
  have hlow := (isBareChar_hexDigit (n := b.toNat % 16) (by omega)).ne_percent
  rcases List.infix_cons_iff.mp h with ⟨behind, hbehind⟩ | h
  · have hbehind : group d ++ behind = group b ++ rest := hbehind
    exact .inl (group_injective (List.append_inj hbehind rfl).1)
  · have h := (List.infix_cons_iff.mp h).resolve_left (not_group_isPrefix_cons hhigh _ _)
    exact .inr ((List.infix_cons_iff.mp h).resolve_left (not_group_isPrefix_cons hlow _ _))

/-- Encoded bytes are spelled tightly. -/
theorem isTight_encodeBytes (bytes : List UInt8) : IsTight (encodeBytes bytes) := by
  intro c hc hfound
  have hbare := (isBareChar_iff_isWrittenBare.mpr hc).2
  induction bytes with
  | nil => simp [encodeBytes, group] at hfound
  | cons b bytes ih =>
    rw [encodeBytes, List.flatMap_cons, ← encodeBytes] at hfound
    by_cases hb : isBare b = true
    · rw [encodeByte, if_pos hb, List.singleton_append] at hfound
      have hfirst := (isBareChar_ofNat hb).ne_percent
      exact ih ((List.infix_cons_iff.mp hfound).resolve_left (not_group_isPrefix_cons hfirst _ _))
    · rw [encodeByte, if_neg hb, ← group] at hfound
      rcases group_isInfix_group_append hfound with hbyte | hfound
      · exact hb (hbyte ▸ hbare)
      · exact ih hfound

/-- The encoding of bytes is their one tight spelling. -/
theorem eq_encodeBytes_iff {t : List Char} {bytes : List UInt8} :
    t = encodeBytes bytes ↔ Spells t bytes ∧ IsTight t := by
  constructor
  · rintro rfl
    exact ⟨decodeBytes?_eq_some_iff.mp (decodeBytes?_encodeBytes bytes), isTight_encodeBytes bytes⟩
  · rintro ⟨hspells, htight⟩
    exact eq_encodeBytes_of_isTight hspells htight

/-- The encoding of a text is the one tight spelling of its bytes. -/
theorem encode_eq_iff {s t : String} :
    encode s = t ↔ Spells t.toList (utf8Bytes s) ∧ IsTight t.toList := by
  rw [← eq_encodeBytes_iff, encode, ← String.toList_inj, String.toList_ofList, eq_comm]

/-- The UTF-8 bytes of a text are those of its characters. -/
theorem utf8Bytes_eq_flatMap (s : String) :
    utf8Bytes s = s.toList.flatMap String.utf8EncodeChar := by
  rw [utf8Bytes, ← String.utf8Encode_toList, List.utf8Encode, List.toList_data_toByteArray]

/-- Encodings are spelled with bare characters and groups, stand for the UTF-8 bytes of the text,
are decoded to it and put together like the texts. They are all the tight spellings of UTF-8: each
of these is the encoding of the text that it is decoded to. -/
theorem encode_canonical :
    (∀ s, Spells (encode s).toList (s.toList.flatMap String.utf8EncodeChar)) ∧
    (∀ s, decode? (encode s) = some s) ∧
    (∀ s t, encode (s ++ t) = encode s ++ encode t) ∧
    ∀ t : String,
      (∃ bytes, Spells t.toList bytes ∧ ByteArray.IsValidUTF8 ⟨bytes.toArray⟩) ∧ IsTight t.toList ↔
        ∃ s, decode? t = some s ∧ encode s = t := by
  refine ⟨fun s => ?_, decode?_encode, encode_append, fun t => ?_⟩
  · rw [← utf8Bytes_eq_flatMap]
    exact (encode_eq_iff.mp rfl).1
  · simp only [encode_eq_iff, decode?_eq_some_iff]
    constructor
    · rintro ⟨⟨bytes, hspells, hvalid⟩, htight⟩
      have hbytes : utf8Bytes (String.fromUTF8 _ hvalid) = bytes := rfl
      rw [← hbytes] at hspells
      exact ⟨_, hspells, hspells, htight⟩
    · rintro ⟨s, hspells, -, htight⟩
      exact ⟨⟨_, hspells, s.isValidUTF8⟩, htight⟩

end FacetedSearch.Text.Percent
