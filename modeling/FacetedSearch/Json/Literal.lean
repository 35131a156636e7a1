import FacetedSearch.Json.Fault

/-!
# Text literals

A text is written between quotes. A backslash introduces an escape: a mark that stands for itself, a
letter for a control character, or `u` and four hexadecimal digits for a UTF-16 unit, two of which
make one character beyond the basic plane. Control characters may not stand bare.

`readChars` reads the characters behind an opening quote, `skipChars` only checks them, and `write`
writes a text. A text that is skipped may hold units that pair with nothing.
-/

namespace FacetedSearch.Json.Literal

/-- The value of a hexadecimal digit of either case. -/
def hexValue? (c : Char) : Option Nat :=
  if '0' ≤ c ∧ c ≤ '9' then some (c.toNat - '0'.toNat)
  else if 'a' ≤ c ∧ c ≤ 'f' then some (c.toNat - 'a'.toNat + 10)
  else if 'A' ≤ c ∧ c ≤ 'F' then some (c.toNat - 'A'.toNat + 10)
  else none

/-- The number that four hexadecimal digits denote. -/
def unitValue? (a b c d : Char) : Option Nat := do
  let a ← hexValue? a
  let b ← hexValue? b
  let c ← hexValue? c
  let d ← hexValue? d
  some (4096 * a + 256 * b + 16 * c + d)

/-- What a missing unit means: too few bytes are left in the text, or they are no digits. -/
def unitDue (s : List Char) : Malformation :=
  if (String.ofList s).utf8ByteSize < 4 then .endOfText else .badEscape

/-- The unit at the head of a text, behind `\u`. -/
def readUnit (s : List Char) : Except Malformation (Nat × List Char) :=
  match s with
  | a :: b :: c :: d :: rest =>
    match unitValue? a b c d with
    | some unit => .ok (unit, rest)
    | none => .error (unitDue s)
  | _ => .error (unitDue s)

def isHighSurrogate (unit : Nat) : Bool := 0xd800 ≤ unit && unit ≤ 0xdbff

def isLowSurrogate (unit : Nat) : Bool := 0xdc00 ≤ unit && unit ≤ 0xdfff

/-- The character of a surrogate pair. -/
def pairedChar (high low : Nat) : Char :=
  Char.ofNat (0x10000 + 1024 * (high - 0xd800) + (low - 0xdc00))

/-- The second unit of a pair, with its `\u`. -/
def readLowSurrogate (high : Nat) (s : List Char) : Except Malformation (Char × List Char) :=
  match s with
  | '\\' :: 'u' :: rest =>
    match readUnit rest with
    | .error cause => .error cause
    | .ok (low, rest) =>
      if isLowSurrogate low then .ok (pairedChar high low, rest) else .error .loneSurrogate
  | [] => .error .endOfText
  | ['\\'] => .error .endOfText
  | _ => .error .unfinishedSurrogates

/-- The character that the units behind `\u` denote. -/
def readUnits (s : List Char) : Except Malformation (Char × List Char) :=
  match readUnit s with
  | .error cause => .error cause
  | .ok (unit, rest) =>
    if isLowSurrogate unit then .error .loneSurrogate
    else if isHighSurrogate unit then readLowSurrogate unit rest
    else .ok (Char.ofNat unit, rest)

/-- The character that a one-letter escape denotes. -/
def shortEscape? (c : Char) : Option Char :=
  if c = '"' ∨ c = '\\' ∨ c = '/' then some c
  else if c = 'b' then some '\x08'
  else if c = 'f' then some '\x0c'
  else if c = 'n' then some '\n'
  else if c = 'r' then some '\r'
  else if c = 't' then some '\t'
  else none

/-- The character that an escape denotes, behind its backslash. -/
def readEscape (s : List Char) : Except Malformation (Char × List Char) :=
  match s with
  | [] => .error .endOfText
  | c :: rest =>
    match shortEscape? c with
    | some escaped => .ok (escaped, rest)
    | none => if c = 'u' then readUnits rest else .error .badEscape

/-- An escape in a text that is skipped. -/
def skipEscape (s : List Char) : Except Malformation (List Char) :=
  match s with
  | [] => .error .endOfText
  | c :: rest =>
    match shortEscape? c with
    | some _ => .ok rest
    | none =>
      if c = 'u' then
        match readUnit rest with
        | .error cause => .error cause
        | .ok (_, rest) => .ok rest
      else .error .badEscape

/-- Control characters have to be escaped. -/
def isControl (c : Char) : Bool := c < ' '

/-! ## Less is left to read -/

/-- Reading a unit takes its four digits off the text. -/
theorem readUnit_shorter {s : List Char} {unit : Nat} {rest : List Char}
    (h : readUnit s = .ok (unit, rest)) : rest.length < s.length := by
  unfold readUnit at h
  split at h
  · split at h
    · simp only [Except.ok.injEq, Prod.mk.injEq] at h
      simp only [← h.2, List.length_cons]
      omega
    · simp at h
  · simp at h

/-- Reading the second unit of a pair takes at least its digits off the text. -/
theorem readLowSurrogate_shorter {high : Nat} {s : List Char} {c : Char} {rest : List Char}
    (h : readLowSurrogate high s = .ok (c, rest)) : rest.length < s.length := by
  unfold readLowSurrogate at h
  split at h
  · split at h
    · simp at h
    · rename_i hunit
      split at h
      · simp only [Except.ok.injEq, Prod.mk.injEq] at h
        have := readUnit_shorter hunit
        simp only [← h.2, List.length_cons]
        omega
      · simp at h
  all_goals simp at h

/-- Reading the units of a character takes at least four digits off the text. -/
theorem readUnits_shorter {s : List Char} {c : Char} {rest : List Char}
    (h : readUnits s = .ok (c, rest)) : rest.length < s.length := by
  unfold readUnits at h
  split at h
  · simp at h
  · rename_i hunit
    have hlt := readUnit_shorter hunit
    split at h
    · simp at h
    · split at h
      · exact Nat.lt_trans (readLowSurrogate_shorter h) hlt
      · simp only [Except.ok.injEq, Prod.mk.injEq] at h
        exact h.2 ▸ hlt

theorem readEscape_shorter {s : List Char} {c : Char} {rest : List Char}
    (h : readEscape s = .ok (c, rest)) : rest.length < s.length := by
  unfold readEscape at h
  split at h
  · simp at h
  · split at h
    · simp only [Except.ok.injEq, Prod.mk.injEq] at h
      simp [← h.2]
    · split at h
      · exact Nat.lt_succ_of_lt (readUnits_shorter h)
      · simp at h

theorem skipEscape_shorter {s rest : List Char} (h : skipEscape s = .ok rest) :
    rest.length < s.length := by
  unfold skipEscape at h
  split at h
  · simp at h
  · split at h
    · simp only [Except.ok.injEq] at h
      simp [← h]
    · split at h
      · split at h
        · simp at h
        · rename_i hunit
          simp only [Except.ok.injEq] at h
          exact h ▸ Nat.lt_succ_of_lt (readUnit_shorter hunit)
      · simp at h

/-! ## Whole literals -/

/-- The characters up to the closing quote. -/
def readChars (s : List Char) : Except Malformation (List Char × List Char) :=
  match s with
  | [] => .error .endOfText
  | '"' :: rest => .ok ([], rest)
  | '\\' :: rest =>
    match _h : readEscape rest with
    | .error cause => .error cause
    | .ok (c, rest') =>
      match readChars rest' with
      | .error cause => .error cause
      | .ok (chars, tail) => .ok (c :: chars, tail)
  | c :: rest =>
    if isControl c then .error .controlCharacter
    else
      match readChars rest with
      | .error cause => .error cause
      | .ok (chars, tail) => .ok (c :: chars, tail)
termination_by s.length
decreasing_by
  · exact Nat.lt_succ_of_lt (readEscape_shorter _h)
  · simp

/-- What stands behind the closing quote. -/
def skipChars (s : List Char) : Except Malformation (List Char) :=
  match s with
  | [] => .error .endOfText
  | '"' :: rest => .ok rest
  | '\\' :: rest =>
    match _h : skipEscape rest with
    | .error cause => .error cause
    | .ok rest' => skipChars rest'
  | c :: rest => if isControl c then .error .controlCharacter else skipChars rest
termination_by s.length
decreasing_by
  · exact Nat.lt_succ_of_lt (skipEscape_shorter _h)
  · simp

/-- Reading up to the closing quote takes at least the quote off the text. -/
theorem readChars_shorter {s chars rest : List Char} (h : readChars s = .ok (chars, rest)) :
    rest.length < s.length := by
  fun_induction readChars s generalizing chars rest with
  | case1 => simp at h
  | case2 => simp_all
  | case3 => simp at h
  | case4 => simp at h
  | case5 tail c tail' hescape chars' rest' hread ih =>
    simp only [Except.ok.injEq, Prod.mk.injEq] at h
    have := readEscape_shorter hescape
    have := ih hread
    simp only [← h.2, List.length_cons]
    omega
  | case6 => simp at h
  | case7 => simp at h
  | case8 _ _ _ _ _ _ _ hread ih =>
    simp only [Except.ok.injEq, Prod.mk.injEq] at h
    have := ih hread
    simp only [← h.2, List.length_cons]
    omega

/-- Skipping up to the closing quote takes at least the quote off the text. -/
theorem skipChars_shorter {s rest : List Char} (h : skipChars s = .ok rest) :
    rest.length < s.length := by
  fun_induction skipChars s generalizing rest with
  | case1 => simp at h
  | case2 => simp_all
  | case3 => simp at h
  | case4 tail tail' hescape ih =>
    have := skipEscape_shorter hescape
    have := ih h
    simp only [List.length_cons]
    omega
  | case5 => simp at h
  | case6 _ _ _ _ _ ih =>
    have := ih h
    simp only [List.length_cons]
    omega

/-! ## Writing -/

/-- A lower-case hexadecimal digit. -/
def hexDigit (n : Nat) : Char :=
  Char.ofNat (if n < 10 then '0'.toNat + n else 'a'.toNat + n - 10)

/-- One character of a literal. Only quotes, backslashes and control characters are escaped. -/
def writeChar (c : Char) : List Char :=
  if c = '"' then ['\\', '"']
  else if c = '\\' then ['\\', '\\']
  else if c = '\x08' then ['\\', 'b']
  else if c = '\x0c' then ['\\', 'f']
  else if c = '\n' then ['\\', 'n']
  else if c = '\r' then ['\\', 'r']
  else if c = '\t' then ['\\', 't']
  else if isControl c then ['\\', 'u', '0', '0', hexDigit (c.toNat / 16), hexDigit (c.toNat % 16)]
  else [c]

/-- A text between quotes. -/
def write (s : String) : List Char :=
  '"' :: (s.toList.flatMap writeChar ++ ['"'])

end FacetedSearch.Json.Literal
