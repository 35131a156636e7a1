import FacetedSearch.Json.Literal

/-!
# A text is read back from its literal

`readChars_write_append` says that the characters of a text are read back from behind the opening
quote of its literal, whatever follows the literal. It follows character by character from
`readChars_writeChar_append`, where each way to write a character is matched with its way to be
read.
-/

namespace FacetedSearch.Json.Literal

/-- A hexadecimal digit that is written has the value it was written for. -/
theorem hexValue?_hexDigit {n : Nat} (h : n < 16) : hexValue? (hexDigit n) = some n := by
  have all : ∀ m : Fin 16, hexValue? (hexDigit m) = some m.val := by decide
  exact all ⟨n, h⟩

/-- The unit of a control character has two zeros in front. -/
theorem unitValue?_of_isControl {c : Char} (h : isControl c = true) :
    unitValue? '0' '0' (hexDigit (c.toNat / 16)) (hexDigit (c.toNat % 16)) = some c.toNat := by
  have hlt : c.toNat < 32 := by simpa [isControl, Char.lt_def, UInt32.lt_iff_toNat_lt] using h
  have hzero : hexValue? '0' = some 0 := by decide
  have hhigh := hexValue?_hexDigit (n := c.toNat / 16) (by omega)
  have hlow := hexValue?_hexDigit (n := c.toNat % 16) (by omega)
  simp only [unitValue?, hzero, hhigh, hlow, Option.bind_eq_bind, Option.bind_some]
  congr 1
  omega

/-- The unit that a control character is written as is read back as that character. -/
theorem readUnits_of_isControl {c : Char} (h : isControl c = true) (s : List Char) :
    readUnits ('0' :: '0' :: hexDigit (c.toNat / 16) :: hexDigit (c.toNat % 16) :: s) =
      .ok (c, s) := by
  have hlt : c.toNat < 32 := by simpa [isControl, Char.lt_def, UInt32.lt_iff_toNat_lt] using h
  rw [readUnits, readUnit, unitValue?_of_isControl h]
  have hlow : isLowSurrogate c.toNat = false := by
    rw [isLowSurrogate, decide_eq_false (by omega), Bool.false_and]
  have hhigh : isHighSurrogate c.toNat = false := by
    rw [isHighSurrogate, decide_eq_false (by omega), Bool.false_and]
  simp [hlow, hhigh, Char.ofNat_toNat]

/-- An escape at the head of a text gives its character. -/
theorem readChars_backslash {s rest : List Char} {c : Char} (h : readEscape s = .ok (c, rest)) :
    readChars ('\\' :: s) = (readChars rest).map fun result => (c :: result.1, result.2) := by
  rw [readChars]
  split
  · rename_i heq
    rw [h] at heq
    cases heq
  · rename_i heq
    rw [h] at heq
    cases heq
    cases readChars rest <;> rfl

/-- A one-letter escape is read as the character that it denotes. -/
theorem readEscape_of_shortEscape? {c escaped : Char} (h : shortEscape? c = some escaped)
    (s : List Char) : readEscape (c :: s) = .ok (escaped, s) := by
  simp [readEscape, h]

/-- An escape of one letter gives the character that the letter stands for. -/
theorem readChars_shortEscape {c escaped : Char} (h : shortEscape? c = some escaped)
    (s : List Char) : readChars ('\\' :: c :: s) =
      (readChars s).map fun result => (escaped :: result.1, result.2) :=
  readChars_backslash (readEscape_of_shortEscape? h s)

/-- A character that needs no escape stands for itself. -/
theorem readChars_cons {c : Char} (hquote : c ≠ '"') (hbackslash : c ≠ '\\')
    (hcontrol : isControl c = false) (s : List Char) :
    readChars (c :: s) = (readChars s).map fun result => (c :: result.1, result.2) := by
  rw [readChars, if_neg (by simp [hcontrol])]
  · cases readChars s <;> rfl
  · exact hquote
  · exact hbackslash

/-- A character is read back from the way it is written, whatever follows. -/
theorem readChars_writeChar_append (c : Char) (s : List Char) :
    readChars (writeChar c ++ s) = (readChars s).map fun result => (c :: result.1, result.2) := by
  rw [writeChar]
  split
  · rename_i h
    subst h
    exact readChars_shortEscape rfl s
  · rename_i hquote
    split
    · rename_i h
      subst h
      exact readChars_shortEscape rfl s
    · rename_i hbackslash
      iterate 5
        split
        · rename_i h
          subst h
          exact readChars_shortEscape rfl s
      split
      · rename_i h
        exact readChars_backslash (readUnits_of_isControl h s)
      · rename_i h
        exact readChars_cons hquote hbackslash (by simpa using h) s

/-- The characters of a text are read back from its literal, whatever follows the closing quote. -/
theorem readChars_write_append (chars rest : List Char) :
    readChars (chars.flatMap writeChar ++ '"' :: rest) = .ok (chars, rest) := by
  induction chars with
  | nil => simp [readChars]
  | cons c chars ih =>
    rw [List.flatMap_cons, List.append_assoc, readChars_writeChar_append, ih]
    rfl

end FacetedSearch.Json.Literal
