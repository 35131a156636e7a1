import FacetedSearch.Json.Reader

/-!
# Skipping a value

The value of a key that means nothing is checked for its form and thrown away. The check is lenient:
nesting may be of any depth, numbers of any size, and escapes need not pair up. A numeral that is
cut short is malformed wherever it ends, and after a comma a bracket is simply not the part that is
due.
-/

namespace FacetedSearch.Json

namespace Numeral

/-- A digit, which has to be there. -/
def skipDigit : List Char → Except Malformation (List Char)
  | c :: rest => if isDigit c then .ok rest else .error .badNumber
  | [] => .error .badNumber

/-- The digits in front of a point. -/
def skipWhole (s : List Char) : Except Malformation (List Char) :=
  match s with
  | '0' :: rest =>
    match rest with
    | c :: _ => if isDigit c then .error .badNumber else .ok rest
    | [] => .ok []
  | _ =>
    match skipDigit s with
    | .error cause => .error cause
    | .ok rest => .ok (rest.dropWhile isDigit)

/-- A point and the digits behind it, if there is a point. -/
def skipFraction (s : List Char) : Except Malformation (List Char) :=
  match s with
  | '.' :: rest =>
    match skipDigit rest with
    | .error cause => .error cause
    | .ok rest => .ok (rest.dropWhile isDigit)
  | _ => .ok s

/-- A power of ten, if there is one. -/
def skipPower (s : List Char) : Except Malformation (List Char) :=
  match s with
  | c :: rest =>
    if c = 'e' ∨ c = 'E' then
      match skipDigit (readSign rest).2 with
      | .error cause => .error cause
      | .ok rest => .ok (rest.dropWhile isDigit)
    else .ok s
  | [] => .ok []

/-- A numeral behind its minus sign. -/
def skipUnsigned (s : List Char) : Except Malformation (List Char) :=
  match skipWhole s with
  | .error cause => .error cause
  | .ok s =>
    match skipFraction s with
    | .error cause => .error cause
    | .ok s => skipPower s

/-- Skipping a digit takes it off the text. -/
theorem skipDigit_shorter {s rest : List Char} (h : skipDigit s = .ok rest) :
    rest.length < s.length := by
  unfold skipDigit at h
  split at h
  · split at h
    · simp only [Except.ok.injEq] at h
      simp [← h]
    · simp at h
  · simp at h

/-- Skipping the digits in front of a point takes at least one of them off the text. -/
theorem skipWhole_shorter {s rest : List Char} (h : skipWhole s = .ok rest) :
    rest.length < s.length := by
  unfold skipWhole at h
  split at h
  · split at h
    · split at h
      · simp at h
      · simp only [Except.ok.injEq] at h
        simp [← h]
    · simp only [Except.ok.injEq] at h
      simp [← h]
  · split at h
    · simp at h
    · rename_i hdigit
      simp only [Except.ok.injEq] at h
      exact h ▸ Nat.lt_of_le_of_lt (length_dropWhile_isDigit_le _) (skipDigit_shorter hdigit)

theorem skipFraction_le {s rest : List Char} (h : skipFraction s = .ok rest) :
    rest.length ≤ s.length := by
  unfold skipFraction at h
  split at h
  · split at h
    · simp at h
    · rename_i hdigit
      simp only [Except.ok.injEq] at h
      rw [← h, List.length_cons]
      exact Nat.le_succ_of_le
        (Nat.le_trans (length_dropWhile_isDigit_le _) (Nat.le_of_lt (skipDigit_shorter hdigit)))
  · simp only [Except.ok.injEq] at h
    simp [h]

theorem skipPower_le {s rest : List Char} (h : skipPower s = .ok rest) :
    rest.length ≤ s.length := by
  unfold skipPower at h
  split at h
  · split at h
    · split at h
      · simp at h
      · rename_i tail _ _ _ hdigit
        simp only [Except.ok.injEq] at h
        rw [← h, List.length_cons]
        exact Nat.le_succ_of_le
          (Nat.le_trans (length_dropWhile_isDigit_le _)
            (Nat.le_trans (Nat.le_of_lt (skipDigit_shorter hdigit)) (readSign_le tail)))
    · simp only [Except.ok.injEq] at h
      simp [← h]
  · simp only [Except.ok.injEq] at h
    simp [← h]

theorem skipUnsigned_shorter {s rest : List Char} (h : skipUnsigned s = .ok rest) :
    rest.length < s.length := by
  unfold skipUnsigned at h
  split at h
  · simp at h
  · rename_i hwhole
    split at h
    · simp at h
    · rename_i hfraction
      exact Nat.lt_of_le_of_lt (Nat.le_trans (skipPower_le h) (skipFraction_le hfraction))
        (skipWhole_shorter hwhole)

end Numeral

/-- A bracket that has been opened. -/
inductive Bracket where
  | list
  | object

namespace Bracket

/-- The character that closes the bracket. -/
def closing : Bracket → Char
  | .list => ']'
  | .object => '\x7d'

/-- The end of the text, seen between the brackets. -/
def atEnd : Bracket → Malformation
  | .list => .endOfList
  | .object => .endOfObject

/-- Something else than a comma or the closing bracket. -/
def endDue : Bracket → Malformation
  | .list => .listEndDue
  | .object => .objectEndDue

end Bracket

/-- What is skipped next: a value, the first part inside a bracket, or what follows a value. -/
inductive Due where
  | value
  | inside (bracket : Bracket)
  | next

/-- The key and the colon in front of a member; nothing in front of an item. -/
def skipKey (bracket : Bracket) (s : List Char) : Except Malformation (List Char) :=
  match bracket with
  | .list => .ok s
  | .object =>
    match skipBlank s with
    | [] => .error .endOfObject
    | '"' :: rest =>
      match Literal.skipChars rest with
      | .error cause => .error cause
      | .ok rest => readColon rest
    | _ => .error .keyNotText

/-- A scalar, or the bracket that opens here. -/
def skipHead (s : List Char) : Except Malformation (Option Bracket × List Char) :=
  match skipBlank s with
  | [] => .error .endOfValue
  | 'n' :: rest => (readWord ['u', 'l', 'l'] rest).map (none, ·)
  | 't' :: rest => (readWord ['r', 'u', 'e'] rest).map (none, ·)
  | 'f' :: rest => (readWord ['a', 'l', 's', 'e'] rest).map (none, ·)
  | '"' :: rest => (Literal.skipChars rest).map (none, ·)
  | '[' :: rest => .ok (some .list, rest)
  | '\x7b' :: rest => .ok (some .object, rest)
  | '-' :: rest => (Numeral.skipUnsigned rest).map (none, ·)
  | c :: rest =>
    if Numeral.isDigit c then (Numeral.skipUnsigned (c :: rest)).map (none, ·)
    else .error .valueDue

/-- Skipping what stands in front of a value leaves no more of the text than there was. -/
theorem skipKey_le {bracket : Bracket} {s rest : List Char} (h : skipKey bracket s = .ok rest) :
    rest.length ≤ s.length := by
  unfold skipKey at h
  split at h
  · simp only [Except.ok.injEq] at h
    simp [h]
  · split at h
    · simp at h
    · rename_i hs
      split at h
      · simp at h
      · rename_i hchars
        have := lt_of_skipBlank_eq_cons hs
        have := Literal.skipChars_shorter hchars
        have := readColon_shorter h
        omega
    · simp at h

/-- A scalar that is skipped without opening a bracket leaves no more text than its scan does. -/
private theorem le_of_map_eq_ok {result : Except Malformation (List Char)} {b : Option Bracket}
    {rest s : List Char} (h : result.map (none, ·) = .ok (b, rest))
    (hle : ∀ {r}, result = .ok r → r.length ≤ s.length) : rest.length ≤ s.length := by
  cases result with
  | error cause => simp [Except.map] at h
  | ok r =>
    simp only [Except.map, Except.ok.injEq, Prod.mk.injEq] at h
    exact h.2 ▸ hle rfl

/-- Skipping a scalar or an opening bracket takes at least one character off the text. -/
theorem skipHead_shorter {s rest : List Char} {b : Option Bracket}
    (h : skipHead s = .ok (b, rest)) : rest.length < s.length := by
  unfold skipHead at h
  split at h
  · simp at h
  iterate 3
    rename_i hs
    exact Nat.lt_of_le_of_lt (le_of_map_eq_ok h readWord_le) (lt_of_skipBlank_eq_cons hs)
  · rename_i hs
    exact Nat.lt_of_le_of_lt
      (le_of_map_eq_ok h fun h => Nat.le_of_lt (Literal.skipChars_shorter h))
      (lt_of_skipBlank_eq_cons hs)
  iterate 2
    rename_i hs
    simp only [Except.ok.injEq, Prod.mk.injEq] at h
    exact h.2 ▸ lt_of_skipBlank_eq_cons hs
  · rename_i hs
    exact Nat.lt_of_le_of_lt
      (le_of_map_eq_ok h fun h => Nat.le_of_lt (Numeral.skipUnsigned_shorter h))
      (lt_of_skipBlank_eq_cons hs)
  · rename_i c tail _ _ _ _ _ _ _ hs
    split at h
    · have hlt := lt_of_skipBlank_eq_cons hs
      refine Nat.lt_of_le_of_lt (le_of_map_eq_ok h fun h => ?_) hlt
      have := Numeral.skipUnsigned_shorter h
      rw [List.length_cons] at this
      omega
    · simp at h

/-- Skips what is due and then whatever the open brackets, innermost first, still hold. -/
def skipFrom (due : Due) (opened : List Bracket) (s : List Char) :
    Except Malformation (List Char) :=
  match due, opened with
  | .value, opened =>
    match _hhead : skipHead s with
    | .error cause => .error cause
    | .ok (none, rest) => skipFrom .next opened rest
    | .ok (some bracket, rest) => skipFrom (.inside bracket) opened rest
  | .inside bracket, opened =>
    match _hblank : skipBlank s with
    | [] => .error bracket.atEnd
    | c :: rest =>
      if c = bracket.closing then skipFrom .next opened rest
      else
        match _hkey : skipKey bracket s with
        | .error cause => .error cause
        | .ok s' => skipFrom .value (bracket :: opened) s'
  | .next, [] => .ok s
  | .next, bracket :: opened =>
    match _hblank : skipBlank s with
    | [] => .error bracket.atEnd
    | c :: rest =>
      if c = ',' then
        match _hkey : skipKey bracket rest with
        | .error cause => .error cause
        | .ok s' => skipFrom .value (bracket :: opened) s'
      else if c = bracket.closing then skipFrom .next opened rest
      else .error bracket.endDue
termination_by (s.length, match due with | .value => 0 | .inside _ => 1 | .next => 0)
decreasing_by
  · exact Prod.Lex.left _ _ (skipHead_shorter _hhead)
  · exact Prod.Lex.left _ _ (skipHead_shorter _hhead)
  · exact Prod.Lex.left _ _ (lt_of_skipBlank_eq_cons _hblank)
  · rcases Nat.lt_or_eq_of_le (skipKey_le _hkey) with h | h
    · exact Prod.Lex.left _ _ h
    · rw [h]
      exact Prod.Lex.right _ (by decide)
  · exact Prod.Lex.left _ _
      (Nat.lt_of_le_of_lt (skipKey_le _hkey) (lt_of_skipBlank_eq_cons _hblank))
  · exact Prod.Lex.left _ _ (lt_of_skipBlank_eq_cons _hblank)

/-- Skipping whatever is due leaves no more of the text than there was. -/
theorem skipFrom_le {due : Due} {opened : List Bracket} {s rest : List Char}
    (h : skipFrom due opened s = .ok rest) : rest.length ≤ s.length := by
  fun_induction skipFrom due opened s with
  | case1 => simp at h
  | case2 _ _ _ hhead ih => exact Nat.le_trans (ih h) (Nat.le_of_lt (skipHead_shorter hhead))
  | case3 _ _ _ _ hhead ih => exact Nat.le_trans (ih h) (Nat.le_of_lt (skipHead_shorter hhead))
  | case4 => simp at h
  | case5 _ _ _ _ hblank ih =>
    exact Nat.le_trans (ih h) (Nat.le_of_lt (lt_of_skipBlank_eq_cons hblank))
  | case6 => simp at h
  | case7 _ _ _ _ _ _ _ _ hkey ih => exact Nat.le_trans (ih h) (skipKey_le hkey)
  | case8 => simp_all
  | case9 => simp at h
  | case10 => simp at h
  | case11 _ _ _ _ _ hkey hblank ih =>
    exact Nat.le_trans (ih h)
      (Nat.le_trans (skipKey_le hkey) (Nat.le_of_lt (lt_of_skipBlank_eq_cons hblank)))
  | case12 _ _ _ _ hblank _ ih =>
    exact Nat.le_trans (ih h) (Nat.le_of_lt (lt_of_skipBlank_eq_cons hblank))
  | case13 => simp at h

/-- Skips one value. -/
def skipper : Reader Unit where
  run s :=
    match skipFrom .value [] s with
    | .error cause => .error (.malformed cause)
    | .ok rest => .ok ((), rest)
  shorter {s a rest} h := by
    split at h
    · simp at h
    · rename_i hskip
      simp only [Except.ok.injEq, Prod.mk.injEq] at h
      rw [skipFrom] at hskip
      split at hskip
      · simp at hskip
      all_goals
        rename_i hhead
        exact h.2 ▸ Nat.lt_of_le_of_lt (skipFrom_le hskip) (skipHead_shorter hhead)

end FacetedSearch.Json
