import FacetedSearch.Json.Numeral

/-!
# The text of a number

What a number is written as: never nothing, and made of digits, signs, points and the letter of a
power of ten only. A whole number is read back from its text, provided that what stands behind the
text does not go on with the numeral (`Numeral.read_signedNumeral_append`, `Numeral.value?_ofInt`).
-/

namespace FacetedSearch

open Json.Numeral (isDigit natValue)

/-! ## Digits -/

namespace Decimal

/-- A numeral is made of digits. -/
theorem isDigit_of_mem_numeral {n : Nat} {c : Char} (h : c ∈ numeral n) : isDigit c = true :=
  Nat.isDigit_of_mem_toDigits (by decide) (by decide) h

theorem numeral_ne_nil (n : Nat) : numeral n ≠ [] := Nat.toDigits_ne_nil

theorem numeral_zero : numeral 0 = ['0'] := Nat.toDigits_zero 10

/-- The digits of a number denote it. -/
@[simp]
theorem natValue_numeral (n : Nat) : natValue (numeral n) = n :=
  (Nat.ofDigitChars_eq_foldl ▸ Nat.ofDigitChars_ten_toDigits :)

/-- A positive number has no zero in front. -/
theorem exists_numeral_eq_cons {n : Nat} (h : 0 < n) :
    ∃ c digits, numeral n = c :: digits ∧ c ≠ '0' := by
  induction n using Nat.strongRecOn with
  | ind n ih =>
    by_cases hn : n < 10
    · have hfirst : ∀ m : Fin 10, 0 < m.val → Nat.digitChar m ≠ '0' := by decide
      exact ⟨n.digitChar, [], Nat.toDigits_of_lt_base hn, hfirst ⟨n, hn⟩ h⟩
    · obtain ⟨c, digits, hdigits, hc⟩ := ih (n / 10) (by omega) (by omega)
      refine ⟨c, digits ++ [(n % 10).digitChar], ?_, hc⟩
      rw [numeral, Nat.toDigits_of_base_le (by decide) (by omega), ← numeral, hdigits]
      rfl

end Decimal

/-! ## The characters of a number -/

/-- The characters that a number is written with. -/
def Number.isChar (c : Char) : Bool := isDigit c || ['-', '+', '.', 'e'].contains c

/-- A digit is a character of a number. -/
theorem Number.isChar_of_mem_numeral {n : Nat} {c : Char} (h : c ∈ Decimal.numeral n) :
    Number.isChar c = true := by
  rw [Number.isChar, Decimal.isDigit_of_mem_numeral h, Bool.true_or]

namespace NumberLayout

variable (layout : NumberLayout)

/-- The magnitude of a decimal has at least one character in every layout. -/
theorem magnitude_ne_nil (x : Decimal) : layout.magnitude x ≠ [] := by
  rw [magnitude]
  split
  · simp
  · split <;> simp

/-- Wherever the point stands, the digits are those of the decimal and of its power of ten. -/
theorem isChar_of_mem_magnitude {x : Decimal} {c : Char} (h : c ∈ layout.magnitude x) :
    Number.isChar c = true := by
  have htake : ∀ k, c ∈ (Decimal.numeral x.digits).take k → Number.isChar c = true :=
    fun k hc => Number.isChar_of_mem_numeral (List.mem_of_mem_take hc)
  have hdrop : ∀ k, c ∈ (Decimal.numeral x.digits).drop k → Number.isChar c = true :=
    fun k hc => Number.isChar_of_mem_numeral (List.mem_of_mem_drop hc)
  have hzeros : ∀ k, c ∈ List.replicate k '0' → Number.isChar c = true := by
    intro k hc
    rw [List.eq_of_mem_replicate hc]
    decide
  rw [magnitude] at h
  split at h
  · simp only [List.mem_append, List.mem_cons] at h
    rcases h with (hc | hc) | rfl | rfl | hc
    · exact htake 1 hc
    · split at hc
      · cases hc
      · rename_i hfraction
        rcases List.mem_cons.mp hc with rfl | hc
        · decide
        · exact hdrop 1 hc
    · decide
    · split <;> decide
    · exact Number.isChar_of_mem_numeral hc
  · split at h
    · simp only [List.mem_append, List.mem_cons, List.not_mem_nil, or_false] at h
      rcases h with ((rfl | rfl) | hc) | hc
      · decide
      · decide
      · exact hzeros _ hc
      · exact Number.isChar_of_mem_numeral hc
    · simp only [List.mem_append, List.mem_cons] at h
      rcases h with (hc | hc) | rfl | hc
      · exact htake _ hc
      · exact hzeros _ hc
      · decide
      · split at hc
        · rw [List.mem_singleton.mp hc]
          decide
        · exact hdrop _ hc

end NumberLayout

namespace Number

/-- A signed numeral is made of digits and a minus sign. -/
theorem isChar_of_mem_signedNumeral {n : Int} {c : Char} (h : c ∈ signedNumeral n) :
    isChar c = true := by
  rw [signedNumeral] at h
  split at h
  · rcases List.mem_cons.mp h with rfl | h
    · decide
    · exact isChar_of_mem_numeral h
  · exact isChar_of_mem_numeral h

/-- The text of a number is made of characters of numbers. -/
theorem isChar_of_mem_chars {number : Number} {c : Char} (h : c ∈ number.chars) :
    isChar c = true := by
  cases number with
  | whole n => exact isChar_of_mem_signedNumeral h
  | binary x =>
    rw [chars, NumberLayout.write, List.mem_append] at h
    rcases h with h | h
    · split at h
      · rw [List.mem_singleton.mp h]
        decide
      · cases h
    · exact Json.numberLayout.isChar_of_mem_magnitude h

theorem chars_ne_nil (number : Number) : number.chars ≠ [] := by
  cases number with
  | whole n =>
    rw [chars, signedNumeral]
    split
    · simp
    · exact Decimal.numeral_ne_nil _
  | binary x => simp [chars, NumberLayout.write, NumberLayout.magnitude_ne_nil]

/-- There is no space in the text of a number. -/
theorem space_not_mem_chars (number : Number) : ' ' ∉ number.chars := by
  intro h
  exact absurd (isChar_of_mem_chars h) (by decide)

end Number

/-! ## Reading the text of a whole number -/

namespace Json.Numeral

/-- The characters that go on with a numeral. -/
def goesOn (c : Char) : Bool := isDigit c || ['.', 'e', 'E'].contains c

/-- A text that does not go on with the numeral in front of it. -/
def Stops (rest : List Char) : Prop := ∀ c ∈ rest.head?, goesOn c = false

theorem stops_nil : Stops [] := nofun

/-- Whether a text continues a numeral depends on its first character only. -/
theorem stops_cons {c : Char} (h : goesOn c = false) (rest : List Char) : Stops (c :: rest) := by
  rintro d hd
  obtain rfl : c = d := by simpa using hd
  exact h

/-- The first character of a text that does not continue a numeral is no digit. -/
theorem isDigit_of_stops_cons {c : Char} {rest : List Char} (h : Stops (c :: rest)) :
    isDigit c = false := by
  have hc := h c rfl
  simp only [goesOn, Bool.or_eq_false_iff] at hc
  exact hc.1

/-- The numeral of an integer, without fraction or power. -/
def ofInt (n : Int) : Numeral := ⟨n < 0, Decimal.numeral n.natAbs, [], none⟩

/-- Digits in front of a text that begins with none are cut off as they are. -/
theorem takeWhile_isDigit_append {digits rest : List Char} (hdigits : ∀ c ∈ digits, isDigit c = true)
    (h : Stops rest) : (digits ++ rest).takeWhile isDigit = digits ∧
      (digits ++ rest).dropWhile isDigit = rest := by
  rw [List.takeWhile_append_of_pos hdigits, List.dropWhile_append_of_pos hdigits]
  cases rest with
  | nil => simp
  | cons c rest => simp [isDigit_of_stops_cons h]

/-- A written number is read as the digits in front of a point. -/
theorem readWhole_numeral_append (n : Nat) {rest : List Char} (h : Stops rest) :
    readWhole (Decimal.numeral n ++ rest) = .ok (Decimal.numeral n, rest) := by
  obtain rfl | hn := Nat.eq_zero_or_pos n
  · rw [Decimal.numeral_zero]
    cases rest with
    | nil => rfl
    | cons c rest => simp [readWhole, isDigit_of_stops_cons h]
  · obtain ⟨c, digits, hdigits, hzero⟩ := Decimal.exists_numeral_eq_cons hn
    have hall : ∀ d ∈ c :: digits, isDigit d = true := fun d hd =>
      Decimal.isDigit_of_mem_numeral (hdigits ▸ hd)
    have hcut := takeWhile_isDigit_append (fun d hd => hall d (List.mem_cons_of_mem c hd)) h
    rw [hdigits, List.cons_append, readWhole, if_pos (hall c List.mem_cons_self), hcut.1, hcut.2]
    exact hzero

/-- There is no fraction where a numeral ends. -/
theorem readFraction_of_stops {rest : List Char} (h : Stops rest) :
    readFraction rest = .ok ([], rest) := by
  rw [readFraction]
  rintro more rfl
  exact absurd (h '.' rfl) (by decide)

/-- There is no power of ten where a numeral ends. -/
theorem readPower_of_stops {rest : List Char} (h : Stops rest) :
    readPower rest = .ok (none, rest) := by
  cases rest with
  | nil => rfl
  | cons c rest =>
    rw [readPower, if_neg]
    rintro (rfl | rfl)
    · exact absurd (h 'e' rfl) (by decide)
    · exact absurd (h 'E' rfl) (by decide)

/-- A written number is read as a numeral of its digits, without a fraction and a power. -/
theorem readUnsigned_numeral_append (negative : Bool) (n : Nat) {rest : List Char}
    (h : Stops rest) : readUnsigned negative (Decimal.numeral n ++ rest) =
      .ok (⟨negative, Decimal.numeral n, [], none⟩, rest) := by
  rw [readUnsigned, readWhole_numeral_append n h]
  simp only [readFraction_of_stops h, readPower_of_stops h]

/-- An integer is read back from its text, whatever follows that does not go on with it. -/
theorem read_signedNumeral_append (n : Int) {rest : List Char} (h : Stops rest) :
    read (signedNumeral n ++ rest) = .ok (ofInt n, rest) := by
  by_cases hn : n < 0
  · rw [signedNumeral, if_pos hn, List.cons_append, read, readUnsigned_numeral_append true _ h,
      ofInt, decide_eq_true hn]
  · rw [signedNumeral, if_neg hn, read, readUnsigned_numeral_append false _ h, ofInt,
      decide_eq_false hn]
    intro more hmore
    have hminus : '-' ∈ Decimal.numeral n.natAbs := by
      cases hdigits : Decimal.numeral n.natAbs with
      | nil => exact absurd hdigits (Decimal.numeral_ne_nil _)
      | cons c digits =>
        rw [hdigits, List.cons_append, List.cons.injEq] at hmore
        exact hmore.1 ▸ List.mem_cons_self
    exact absurd (Decimal.isDigit_of_mem_numeral hminus) (by decide)

/-- The numeral of a whole number that 64 bits can hold denotes that number. -/
theorem value?_ofInt (n : Whole) : (ofInt n.val).value? = some (.whole n) := by
  have hleast := n.least_le
  have hbound := n.lt_bound
  have hwhole : (ofInt n.val).wholeValue? = some n := by
    rw [wholeValue?, ofInt]
    simp only [Decimal.natValue_numeral, ne_eq, not_true_eq_false, or_self, if_false]
    by_cases hn : n.val < 0
    · have hvalue : -(n.val.natAbs : Int) = n.val := by omega
      rw [if_pos (decide_eq_true hn), if_neg (by omega), hvalue, Whole.ofInt?,
        dif_pos ⟨hleast, hbound⟩]
    · have hvalue : (n.val.natAbs : Int) = n.val := by omega
      rw [if_neg (by simpa using hn), hvalue, Whole.ofInt?, dif_pos ⟨hleast, hbound⟩]
  rw [value?, hwhole]

end Json.Numeral

end FacetedSearch
