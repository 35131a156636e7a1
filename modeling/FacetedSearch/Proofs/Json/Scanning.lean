import FacetedSearch.Json.Skip
import FacetedSearch.Proofs.Json.Values

/-!
# What is scanned is scanned in front of a longer text

Each function of the scanner looks no further than it takes: what it takes off a text it takes off
the same text with more behind it. Only a numeral could be gone on with, so the added text has to
stop numerals. There is one lemma `…_append` for each function, on its successes; what a text that
is refused becomes with more behind it is not said.
-/

namespace FacetedSearch.Json

open Numeral (Stops isDigit)

variable {s t rest : List Char}

/-! ## Text literals -/

namespace Literal

/-- A unit that is read is read the same in front of more text. -/
theorem readUnit_append {unit : Nat} (h : readUnit s = .ok (unit, rest)) :
    readUnit (s ++ t) = .ok (unit, rest ++ t) := by
  unfold readUnit at h
  split at h
  · split at h
    · cases h
      simp_all [readUnit]
    · cases h
  · cases h

/-- The second unit of a pair is read the same in front of more text. -/
theorem readLowSurrogate_append {high : Nat} {c : Char}
    (h : readLowSurrogate high s = .ok (c, rest)) :
    readLowSurrogate high (s ++ t) = .ok (c, rest ++ t) := by
  unfold readLowSurrogate at h
  split at h
  · split at h
    · cases h
    · rename_i hunit
      split at h
      · rename_i hlow
        simp only [Except.ok.injEq, Prod.mk.injEq] at h
        obtain ⟨rfl, rfl⟩ := h
        rw [List.cons_append, List.cons_append, readLowSurrogate, readUnit_append hunit]
        exact if_pos hlow
      · cases h
  all_goals cases h

/-- The character that units denote is read the same in front of more text. -/
theorem readUnits_append {c : Char} (h : readUnits s = .ok (c, rest)) :
    readUnits (s ++ t) = .ok (c, rest ++ t) := by
  unfold readUnits at h
  split at h
  · cases h
  · rename_i hunit
    rw [readUnits, readUnit_append hunit]
    dsimp only
    split at h
    · cases h
    · rename_i hlow
      rw [if_neg hlow]
      split at h
      · rename_i hhigh
        rw [if_pos hhigh, readLowSurrogate_append h]
      · rename_i hhigh
        cases h
        rw [if_neg hhigh]

/-- An escape is read the same in front of more text, in its short form and as units. -/
theorem readEscape_append {c : Char} (h : readEscape s = .ok (c, rest)) :
    readEscape (s ++ t) = .ok (c, rest ++ t) := by
  unfold readEscape at h
  split at h
  · cases h
  · split at h
    · cases h
      simp_all [readEscape]
    · split at h
      · simp_all [readEscape, readUnits_append h]
      · cases h

theorem skipEscape_append (h : skipEscape s = .ok rest) :
    skipEscape (s ++ t) = .ok (rest ++ t) := by
  unfold skipEscape at h
  split at h
  · cases h
  · split at h
    · cases h
      simp_all [skipEscape]
    · split at h
      · split at h
        · cases h
        · rename_i hunit
          cases h
          simp_all [skipEscape, readUnit_append hunit]
      · cases h

/-- Nothing behind its closing quote changes how a literal is read. -/
theorem readChars_append {chars : List Char} (h : readChars s = .ok (chars, rest)) :
    readChars (s ++ t) = .ok (chars, rest ++ t) := by
  fun_induction readChars s generalizing chars rest with
  | case1 => cases h
  | case2 =>
    cases h
    rw [List.cons_append, readChars]
  | case3 => cases h
  | case4 => cases h
  | case5 _ _ _ hescape _ _ hread ih =>
    cases h
    rw [List.cons_append, readChars_backslash (readEscape_append hescape), ih hread]
    rfl
  | case6 => cases h
  | case7 => cases h
  | case8 _ _ hquote hbackslash hcontrol _ _ hread ih =>
    cases h
    rw [List.cons_append, readChars_cons hquote hbackslash (by simpa using hcontrol), ih hread]
    rfl

/-- Nothing behind its closing quote changes how a literal is skipped. -/
theorem skipChars_append (h : skipChars s = .ok rest) : skipChars (s ++ t) = .ok (rest ++ t) := by
  fun_induction skipChars s generalizing rest with
  | case1 => cases h
  | case2 =>
    cases h
    rw [List.cons_append, skipChars]
  | case3 => cases h
  | case4 _ _ hescape ih =>
    rw [List.cons_append, skipChars]
    split
    · simp_all [skipEscape_append hescape]
    · simp_all [skipEscape_append hescape]
  | case5 => cases h
  | case6 _ _ hquote hbackslash hcontrol ih =>
    rw [List.cons_append, skipChars, if_neg hcontrol, ih h]
    · exact hquote
    · exact hbackslash

end Literal

/-! ## Numerals -/

namespace Numeral

/-- A text that does not begin with a digit adds no digit to the run in front of it. -/
theorem takeWhile_append_of_stops (s : List Char) (ht : Stops t) :
    (s ++ t).takeWhile isDigit = s.takeWhile isDigit ∧
      (s ++ t).dropWhile isDigit = s.dropWhile isDigit ++ t := by
  induction s with
  | nil =>
    have h := takeWhile_isDigit_append (List.forall_mem_nil _) ht
    simpa using h
  | cons c s ih =>
    by_cases hc : isDigit c = true
    · simp [hc, ih.1, ih.2]
    · simp [hc]

/-- The digits in front of a point are read the same if no further digit follows. -/
theorem readWhole_append {digits : List Char} (ht : Stops t) (h : readWhole s = .ok (digits, rest)) :
    readWhole (s ++ t) = .ok (digits, rest ++ t) := by
  unfold readWhole at h
  split at h
  · split at h
    · split at h
      · cases h
      · cases h
        simp_all [readWhole]
    · cases h
      exact readWhole_numeral_append 0 ht
  · rename_i c tail hzero
    split at h
    · rename_i hc
      cases h
      rw [List.cons_append, readWhole, if_pos hc, (takeWhile_append_of_stops tail ht).1,
        (takeWhile_append_of_stops tail ht).2]
      exact hzero
    · cases h
  · cases h

/-- A fraction, or its absence, is read the same if the text behind does not continue the numeral.
-/
theorem readFraction_append {digits : List Char} (ht : Stops t)
    (h : readFraction s = .ok (digits, rest)) : readFraction (s ++ t) = .ok (digits, rest ++ t) := by
  unfold readFraction at h
  split at h
  · rename_i tail
    rw [List.cons_append, readFraction, (takeWhile_append_of_stops tail ht).1,
      (takeWhile_append_of_stops tail ht).2]
    split at h
    · cases h
    · cases h
      rfl
  · rename_i hpoint
    cases h
    cases s with
    | nil => exact readFraction_of_stops ht
    | cons c tail =>
      rw [List.cons_append, readFraction]
      rintro _ ⟨⟩
      exact hpoint tail rfl

/-- The sign of a power is read the same if something stands behind it already. -/
theorem readSign_append (hs : (readSign s).2 ≠ []) :
    readSign (s ++ t) = ((readSign s).1, (readSign s).2 ++ t) := by
  cases s with
  | nil => exact absurd rfl hs
  | cons c tail =>
    rw [List.cons_append]
    unfold readSign
    split <;> split <;> simp_all

/-- A power of ten, or its absence, is read the same if the text behind does not continue the
numeral. -/
theorem readPower_append {power : Option Int} (ht : Stops t) (h : readPower s = .ok (power, rest)) :
    readPower (s ++ t) = .ok (power, rest ++ t) := by
  unfold readPower at h
  split at h
  · rename_i c tail
    split at h
    · rename_i hc
      dsimp only at h
      split at h
      · cases h
      · rename_i digits hdigits
        cases h
        have hsign : readSign (tail ++ t) = ((readSign tail).1, (readSign tail).2 ++ t) :=
          readSign_append fun hnil => hdigits (by rw [hnil]; rfl)
        rw [List.cons_append, readPower, if_pos hc]
        simp only [hsign, (takeWhile_append_of_stops _ ht).1, (takeWhile_append_of_stops _ ht).2]
    · rename_i hc
      cases h
      rw [List.cons_append, readPower, if_neg hc]
  · cases h
    exact readPower_of_stops ht

/-- A numeral behind its sign is read the same if the text behind does not continue it. -/
theorem readUnsigned_append {negative : Bool} {n : Numeral} (ht : Stops t)
    (h : readUnsigned negative s = .ok (n, rest)) :
    readUnsigned negative (s ++ t) = .ok (n, rest ++ t) := by
  unfold readUnsigned at h
  split at h
  · cases h
  · rename_i hwhole
    split at h
    · cases h
    · rename_i hfraction
      split at h
      · cases h
      · rename_i hpower
        cases h
        simp only [readUnsigned, readWhole_append ht hwhole, readFraction_append ht hfraction,
          readPower_append ht hpower]

/-- A numeral is read the same if the text behind does not continue it. -/
theorem read_append {n : Numeral} (ht : Stops t) (h : read s = .ok (n, rest)) :
    read (s ++ t) = .ok (n, rest ++ t) := by
  unfold read at h
  split at h
  · exact readUnsigned_append ht h
  · rename_i hminus
    cases s with
    | nil => cases h
    | cons c tail =>
      rw [List.cons_append, read]
      · exact readUnsigned_append ht h
      · rintro _ ⟨⟩
        exact hminus tail rfl

/-! ### Skipped numerals -/

/-- A digit is skipped the same in front of more text. -/
theorem skipDigit_append (h : skipDigit s = .ok rest) : skipDigit (s ++ t) = .ok (rest ++ t) := by
  unfold skipDigit at h
  split at h
  · split at h
    · cases h
      simp_all [skipDigit]
    · cases h
  · cases h

/-- The digits in front of a point are skipped the same if no further digit follows. -/
theorem skipWhole_append (ht : Stops t) (h : skipWhole s = .ok rest) :
    skipWhole (s ++ t) = .ok (rest ++ t) := by
  unfold skipWhole at h
  split at h
  · split at h
    · split at h
      · cases h
      · cases h
        simp_all [skipWhole]
    · cases h
      cases t with
      | nil => rfl
      | cons c t => simp [skipWhole, isDigit_of_stops_cons ht]
  · rename_i hzero
    split at h
    · cases h
    · rename_i hdigit
      cases h
      cases s with
      | nil => cases hdigit
      | cons c tail =>
        have hskip := skipDigit_append (t := t) hdigit
        rw [List.cons_append] at hskip ⊢
        rw [skipWhole, hskip]
        · simp only [(takeWhile_append_of_stops _ ht).2]
        · rintro _ ⟨⟩
          exact hzero tail rfl

/-- A fraction, or its absence, is skipped the same if the text behind does not continue the
numeral. -/
theorem skipFraction_append (ht : Stops t) (h : skipFraction s = .ok rest) :
    skipFraction (s ++ t) = .ok (rest ++ t) := by
  unfold skipFraction at h
  split at h
  · split at h
    · cases h
    · rename_i hdigit
      cases h
      rw [List.cons_append, skipFraction, skipDigit_append hdigit]
      simp only [(takeWhile_append_of_stops _ ht).2]
  · rename_i hpoint
    cases h
    cases s with
    | nil =>
      rw [List.nil_append, skipFraction]
      rintro _ rfl
      exact absurd (ht '.' rfl) (by decide)
    | cons c tail =>
      rw [List.cons_append, skipFraction]
      rintro _ ⟨⟩
      exact hpoint tail rfl

/-- A power of ten, or its absence, is skipped the same if the text behind does not continue it. -/
theorem skipPower_append (ht : Stops t) (h : skipPower s = .ok rest) :
    skipPower (s ++ t) = .ok (rest ++ t) := by
  unfold skipPower at h
  split at h
  · rename_i c tail
    split at h
    · rename_i hc
      split at h
      · cases h
      · rename_i hdigit
        cases h
        have hsign : readSign (tail ++ t) = ((readSign tail).1, (readSign tail).2 ++ t) :=
          readSign_append fun hnil => by rw [hnil] at hdigit; cases hdigit
        rw [List.cons_append, skipPower, if_pos hc, hsign]
        simp only [skipDigit_append hdigit, (takeWhile_append_of_stops _ ht).2]
    · rename_i hc
      cases h
      rw [List.cons_append, skipPower, if_neg hc]
  · cases h
    cases t with
    | nil => rfl
    | cons c t =>
      rw [List.nil_append, skipPower, if_neg]
      rintro (rfl | rfl)
      · exact absurd (ht 'e' rfl) (by decide)
      · exact absurd (ht 'E' rfl) (by decide)

/-- A numeral behind its sign is skipped the same if the text behind does not continue it. -/
theorem skipUnsigned_append (ht : Stops t) (h : skipUnsigned s = .ok rest) :
    skipUnsigned (s ++ t) = .ok (rest ++ t) := by
  unfold skipUnsigned at h
  split at h
  · cases h
  · rename_i hwhole
    split at h
    · cases h
    · rename_i hfraction
      simp only [skipUnsigned, skipWhole_append ht hwhole, skipFraction_append ht hfraction,
        skipPower_append ht h]

end Numeral

/-! ## Tokens -/

/-- White space behind a visible character is not skipped. -/
theorem skipBlank_append_of_ne_nil (h : skipBlank s ≠ []) :
    skipBlank (s ++ t) = skipBlank s ++ t := by
  induction s with
  | nil => exact absurd rfl h
  | cons c s ih =>
    cases hc : isBlank c with
    | true =>
      have hskip : ∀ u, skipBlank (c :: u) = skipBlank u := fun u => by simp [skipBlank, hc]
      rw [List.cons_append, hskip, hskip, ih (hskip s ▸ h)]
    | false => rw [List.cons_append, skipBlank_cons hc, skipBlank_cons hc, List.cons_append]

/-- A word is read the same in front of more text. -/
theorem readWord_append {word : List Char} (h : readWord word s = .ok rest) :
    readWord word (s ++ t) = .ok (rest ++ t) := by
  induction word generalizing s with
  | nil =>
    cases h
    rfl
  | cons letter word ih =>
    cases s with
    | nil => cases h
    | cons c s =>
      rw [readWord] at h
      rw [List.cons_append, readWord]
      split at h
      · rename_i hc
        rw [if_pos hc, ih h]
      · cases h

theorem wordToken_append {token token' : Token} {word : List Char}
    (h : wordToken token word s = .ok (token', rest)) :
    wordToken token word (s ++ t) = .ok (token', rest ++ t) := by
  unfold wordToken at h
  split at h
  · cases h
  · rename_i hword
    cases h
    simp only [wordToken, readWord_append hword]

theorem numberToken_append {token : Token} (ht : Stops t) (h : numberToken s = .ok (token, rest)) :
    numberToken (s ++ t) = .ok (token, rest ++ t) := by
  unfold numberToken at h
  split at h
  · cases h
  · rename_i hread
    split at h
    · rename_i hvalue
      cases h
      simp only [numberToken, Numeral.read_append ht hread, hvalue]
    · cases h

theorem textToken_append {token : Token} (h : textToken s = .ok (token, rest)) :
    textToken (s ++ t) = .ok (token, rest ++ t) := by
  unfold textToken at h
  split at h
  · cases h
  · rename_i hread
    cases h
    simp only [textToken, Literal.readChars_append hread]

/-- The token at the head of a text is the same if the text behind does not continue a numeral. -/
theorem headToken_append {token : Token} (ht : Stops t) (h : headToken s = .ok (token, rest)) :
    headToken (s ++ t) = .ok (token, rest ++ t) := by
  unfold headToken at h
  split at h
  · cases h
  · exact wordToken_append h
  · exact wordToken_append h
  · exact wordToken_append h
  · exact textToken_append h
  · cases h
    rfl
  · cases h
    rfl
  · split at h
    · rename_i hc
      rw [List.cons_append, headToken_of_isDigit hc]
      exact numberToken_append ht h
    · cases h

/-- Something is there to be a token. -/
theorem skipBlank_ne_nil_of_readToken {token : Token} (h : readToken s = .ok (token, rest)) :
    skipBlank s ≠ [] := by
  intro hnil
  rw [readToken, hnil] at h
  cases h

/-- A token is the same in front of more text, with or without white space before it. -/
theorem readToken_append {token : Token} (ht : Stops t) (h : readToken s = .ok (token, rest)) :
    readToken (s ++ t) = .ok (token, rest ++ t) := by
  have hskip := skipBlank_append_of_ne_nil (t := t) (skipBlank_ne_nil_of_readToken h)
  unfold readToken at h
  split at h
  · cases h
  · rename_i hhead
    cases h
    simp only [readToken, hskip, headToken_append ht hhead]

/-! ## Lists and objects -/

/-- The same place in a longer text. -/
def Progress.append (t : List Char) : Progress → Progress
  | done rest => done (rest ++ t)
  | more rest => more (rest ++ t)

/-- Where a list stands does not depend on what follows the text seen so far. -/
theorem nextItem_append {first : Bool} {progress : Progress} (h : nextItem first s = .ok progress) :
    nextItem first (s ++ t) = .ok (progress.append t) := by
  have hs : skipBlank s ≠ [] := by
    intro hnil
    rw [nextItem, hnil] at h
    cases h
  rw [nextItem, skipBlank_append_of_ne_nil hs]
  unfold nextItem at h
  split at h
  · cases h
  · rename_i heq
    cases h
    rw [heq]
    rfl
  · rename_i c tail hbracket heq
    rw [heq, List.cons_append]
    cases first with
    | true =>
      cases h
      split <;> simp_all [Progress.append]
    | false =>
      simp only [Bool.false_eq_true, if_false] at h
      split at h
      · rename_i hc
        subst hc
        split at h
        · cases h
        · cases h
        · rename_i hnil hclosing
          cases h
          cases hitem : skipBlank tail with
          | nil => exact absurd hitem hnil
          | cons d more =>
            have hd : d ≠ ']' := fun hd => hclosing more (hd ▸ hitem)
            simp [skipBlank_append_of_ne_nil hnil, hitem, hd, Progress.append]
      · cases h

/-- Where an object stands does not depend on what follows the text seen so far. -/
theorem nextKey_append {first : Bool} {progress : Progress} (h : nextKey first s = .ok progress) :
    nextKey first (s ++ t) = .ok (progress.append t) := by
  have hs : skipBlank s ≠ [] := by
    intro hnil
    rw [nextKey, hnil] at h
    cases h
  rw [nextKey, skipBlank_append_of_ne_nil hs]
  unfold nextKey at h
  split at h
  · cases h
  · rename_i heq
    cases h
    rw [heq]
    rfl
  · rename_i c tail hbracket heq
    rw [heq, List.cons_append]
    cases first with
    | true =>
      simp only [if_true] at h
      split at h
      · rename_i hc
        cases h
        subst hc
        rfl
      · cases h
    | false =>
      simp only [Bool.false_eq_true, if_false] at h
      split at h
      · rename_i hc
        subst hc
        split at h
        · cases h
        · rename_i hkey
          cases h
          have hnil : skipBlank tail ≠ [] := hkey ▸ List.cons_ne_nil _ _
          simp only [Bool.false_eq_true, if_false, if_true, skipBlank_append_of_ne_nil hnil, hkey]
          rfl
        · cases h
        · cases h
      · cases h

/-- A colon is read the same in front of more text. -/
theorem readColon_append (h : readColon s = .ok rest) : readColon (s ++ t) = .ok (rest ++ t) := by
  unfold readColon at h
  split at h
  · cases h
  · rename_i hs
    cases h
    have hskip := skipBlank_append_of_ne_nil (t := t) (hs ▸ List.cons_ne_nil _ _)
    simp only [readColon, hskip, hs, List.cons_append]
  · cases h

/-! ## Skipped values -/

/-- The key and the colon of a member are skipped the same in front of more text. -/
theorem skipKey_append {bracket : Bracket} (h : skipKey bracket s = .ok rest) :
    skipKey bracket (s ++ t) = .ok (rest ++ t) := by
  cases bracket with
  | list =>
    cases h
    rfl
  | object =>
    simp only [skipKey] at h
    split at h
    · cases h
    · rename_i hs
      split at h
      · cases h
      · rename_i hchars
        have hskip := skipBlank_append_of_ne_nil (t := t) (hs ▸ List.cons_ne_nil _ _)
        simp only [skipKey, hskip, hs, List.cons_append, Literal.skipChars_append hchars,
          readColon_append h]
    · cases h

/-- A scalar's scan that more text does not change gives the same outcome as a head that opens no
bracket. -/
theorem map_append {scan : List Char → Except Malformation (List Char)} {bracket : Option Bracket}
    (happend : ∀ {rest}, scan s = .ok rest → scan (s ++ t) = .ok (rest ++ t))
    (h : (scan s).map (none, ·) = .ok (bracket, rest)) :
    (scan (s ++ t)).map (none, ·) = .ok (bracket, rest ++ t) := by
  cases hscan : scan s with
  | error cause =>
    rw [hscan] at h
    cases h
  | ok tail =>
    rw [hscan] at h
    cases h
    rw [happend hscan]
    rfl

/-- A scalar or an opening bracket is skipped the same if the text behind does not continue a
numeral. -/
theorem skipHead_append {bracket : Option Bracket} (ht : Stops t)
    (h : skipHead s = .ok (bracket, rest)) : skipHead (s ++ t) = .ok (bracket, rest ++ t) := by
  have hs : skipBlank s ≠ [] := by
    intro hnil
    rw [skipHead, hnil] at h
    cases h
  rw [skipHead, skipBlank_append_of_ne_nil hs]
  unfold skipHead at h
  split at h
  · cases h
  iterate 3
    rename_i heq
    rw [heq]
    exact map_append readWord_append h
  · rename_i heq
    rw [heq]
    exact map_append Literal.skipChars_append h
  iterate 2
    rename_i heq
    cases h
    rw [heq]
    rfl
  · rename_i heq
    rw [heq]
    exact map_append (Numeral.skipUnsigned_append ht) h
  · rename_i c tail _ _ _ _ _ _ _ heq
    rw [heq, List.cons_append]
    split at h
    · rename_i hc
      have hskip := map_append (Numeral.skipUnsigned_append ht) h
      split <;> simp_all
    · cases h

/-- What is due is skipped the same in front of more text, by the scan's own recursion. -/
theorem skipFrom_append {due : Due} {opened : List Bracket} (ht : Stops t)
    (h : skipFrom due opened s = .ok rest) : skipFrom due opened (s ++ t) = .ok (rest ++ t) := by
  fun_induction skipFrom due opened s with
  | case1 => cases h
  | case2 _ _ _ hhead ih =>
    have hhead' := skipHead_append ht hhead
    rw [skipFrom]
    split <;> simp_all
  | case3 _ _ _ _ hhead ih =>
    have hhead' := skipHead_append ht hhead
    rw [skipFrom]
    split <;> simp_all
  | case4 => cases h
  | case5 _ _ _ _ hblank ih =>
    have hblank' := skipBlank_append_of_ne_nil (t := t) (hblank ▸ List.cons_ne_nil _ _)
    rw [skipFrom]
    split <;> simp_all
  | case6 => cases h
  | case7 _ _ _ _ _ hblank _ _ hkey ih =>
    have hblank' := skipBlank_append_of_ne_nil (t := t) (hblank ▸ List.cons_ne_nil _ _)
    have hkey' := skipKey_append (t := t) hkey
    rw [skipFrom]
    split
    · simp_all
    · split
      · simp_all
      · split <;> simp_all
  | case8 =>
    cases h
    rw [skipFrom]
  | case9 => cases h
  | case10 => cases h
  | case11 _ _ _ _ _ hkey hblank ih =>
    have hblank' := skipBlank_append_of_ne_nil (t := t) (hblank ▸ List.cons_ne_nil _ _)
    have hkey' := skipKey_append (t := t) hkey
    rw [skipFrom]
    split
    · simp_all
    · split
      · split <;> simp_all
      · simp_all
  | case12 _ _ _ _ hblank hcomma ih =>
    have hblank' := skipBlank_append_of_ne_nil (t := t) (hblank ▸ List.cons_ne_nil _ _)
    rw [skipFrom]
    split
    · simp_all
    · rename_i heq
      rw [hblank', hblank, List.cons_append] at heq
      cases heq
      rw [if_neg hcomma, if_pos rfl, ih h]
  | case13 => cases h

end FacetedSearch.Json
