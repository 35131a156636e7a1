import FacetedSearch.Text.Reserved
import Mathlib.Data.String.Basic

/-!
# Escaping loses nothing

`unescape?_escape` says that every text is read back from its protected form. A backslash is
reserved itself, so every backslash in a protected text either protects the character behind it or
is protected.

The query parser knows nothing of how a text was protected. It goes through the text from left to
right and takes the character behind a backslash as it is, whatever it is (`Scan.step`). No step
loses anything: the tokens taken so far and the backslash that waits, if there is one, spell what
has been read (`Scan.chars_step`). So a text is known from its tokens, and the protected texts are
those in which the marks are protected and nothing else is (`escape_eq_iff`, `escape_neutralises`).
-/

namespace FacetedSearch.Text.Reserved

/-! ## Reading back -/

/-- A character that is not reserved protects nothing. -/
theorem ne_backslash {c : Char} (h : isReserved c = false) : c ≠ '\\' := by
  rintro rfl
  revert h
  decide

/-- A protected character at the head of a text is read as that character. -/
theorem unescapeChars?_backslash {c : Char} (h : isReserved c = true) (rest : List Char) :
    unescapeChars? ('\\' :: c :: rest) = (unescapeChars? rest).map (c :: ·) := by
  rw [unescapeChars?, if_pos h]

/-- A character that is not reserved is read as it is. -/
theorem unescapeChars?_cons {c : Char} (h : isReserved c = false) (rest : List Char) :
    unescapeChars? (c :: rest) = (unescapeChars? rest).map (c :: ·) := by
  -- The cases of a backslash come first in the definition, and a backslash is reserved.
  rw [unescapeChars?, if_neg (by simp [h])]
  · exact fun hc _ => ne_backslash h hc
  · exact fun _ _ hc _ => ne_backslash h hc

/-- Escaped characters are restored, character by character. -/
theorem unescapeChars?_escapeChars (s : List Char) : unescapeChars? (escapeChars s) = some s := by
  induction s with
  | nil => rfl
  | cons c rest ih =>
    by_cases h : isReserved c = true
    · rw [escapeChars, if_pos h, unescapeChars?_backslash h, ih]
      rfl
    · rw [escapeChars, if_neg h, unescapeChars?_cons (by simpa using h), ih]
      rfl

/-- Every text is read back from its protected form. -/
@[simp]
theorem unescape?_escape (s : String) : unescape? (escape s) = some s := by
  rw [unescape?, escape, String.toList_ofList, unescapeChars?_escapeChars, Option.map_some,
    String.ofList_toList]

/-- Only the escaped form of characters is restored to them. -/
theorem escapeChars_of_unescapeChars? {t s : List Char} (h : unescapeChars? t = some s) :
    escapeChars s = t := by
  fun_induction unescapeChars? t generalizing s with
  | case1 =>
    cases h
    rfl
  | case2 => cases h
  | case3 c rest hc ih =>
    obtain ⟨tail, htail, rfl⟩ := Option.map_eq_some_iff.mp h
    rw [escapeChars, if_pos hc, ih htail]
  | case4 => cases h
  | case5 => cases h
  | case6 c rest _ _ hc ih =>
    obtain ⟨tail, htail, rfl⟩ := Option.map_eq_some_iff.mp h
    rw [escapeChars, if_neg hc, ih htail]

/-- No other text is read. -/
theorem unescape?_eq_some_iff {t s : String} : unescape? t = some s ↔ escape s = t := by
  constructor
  · intro h
    obtain ⟨chars, hchars, rfl⟩ := Option.map_eq_some_iff.mp h
    rw [escape, String.toList_ofList, escapeChars_of_unescapeChars? hchars, String.ofList_toList]
  · rintro rfl
    exact unescape?_escape s

/-! ## How the parser takes a text -/

/-- The characters that mean something in a query: what stands between terms, the operators, the
brackets of groups and ranges, the marks of a weight, a name and a phrase, and what protects them.
-/
def marks : List Char :=
  [' '] ++ ['!', '+', '&', '|'] ++ ['(', ')', '[', ']', '\x7b', '\x7d'] ++ ['^', ':', '"'] ++ ['\\']

/-- A character, taken by itself or from behind a backslash. -/
structure Token where
  char : Char
  isProtected : Bool
deriving DecidableEq, Repr

/-- What a token is spelled with. -/
def Token.chars (token : Token) : List Char :=
  if token.isProtected then ['\\', token.char] else [token.char]

/-- What a character of a protected text is taken for. -/
def Token.ofChar (c : Char) : Token := ⟨c, isReserved c⟩

/-- The tokens taken from the text that has been read, and whether it ends with a backslash that
waits for the next character. -/
structure Scan where
  taken : List Token
  isWaiting : Bool
deriving DecidableEq, Repr

namespace Scan

/-- One character is read. Behind a backslash that waits it is protected, whatever it is. -/
def step (scan : Scan) (c : Char) : Scan :=
  if scan.isWaiting then ⟨scan.taken ++ [⟨c, true⟩], false⟩
  else if c = '\\' then ⟨scan.taken, true⟩
  else ⟨scan.taken ++ [⟨c, false⟩], false⟩

/-- What has been read. -/
def chars (scan : Scan) : List Char :=
  scan.taken.flatMap Token.chars ++ if scan.isWaiting then ['\\'] else []

/-- A step loses nothing. -/
theorem chars_step (scan : Scan) (c : Char) : (scan.step c).chars = scan.chars ++ [c] := by
  obtain ⟨taken, isWaiting⟩ := scan
  cases isWaiting with
  | true => simp [step, chars, Token.chars]
  | false =>
    by_cases h : c = '\\'
    · simp [step, chars, h]
    · simp [step, chars, Token.chars, h]

/-- A scan loses no character: what it has put out grows by the characters that it takes. -/
theorem chars_foldl_step (scan : Scan) (s : List Char) :
    (s.foldl step scan).chars = scan.chars ++ s := by
  induction s generalizing scan with
  | nil => rw [List.foldl_nil, List.append_nil]
  | cons c rest ih =>
    rw [List.foldl_cons, ih, chars_step, List.append_assoc, List.singleton_append]

/-- A protected character is taken as one token, and no backslash waits behind it. -/
theorem foldl_step_escapeChars (taken : List Token) (s : List Char) :
    (escapeChars s).foldl step ⟨taken, false⟩ = ⟨taken ++ s.map Token.ofChar, false⟩ := by
  induction s generalizing taken with
  | nil => rw [escapeChars, List.foldl_nil, List.map_nil, List.append_nil]
  | cons c rest ih =>
    rw [List.map_cons, List.append_cons]
    by_cases h : isReserved c = true
    · have htwo : ((⟨taken, false⟩ : Scan).step '\\').step c = ⟨taken ++ [.ofChar c], false⟩ := by
        simp [step, Token.ofChar, h]
      rw [escapeChars, if_pos h, List.foldl_cons, List.foldl_cons, htwo, ih]
    · have hc : isReserved c = false := by simpa using h
      have hone : (⟨taken, false⟩ : Scan).step c = ⟨taken ++ [.ofChar c], false⟩ := by
        simp [step, Token.ofChar, ne_backslash hc, hc]
      rw [escapeChars, if_neg h, List.foldl_cons, hone, ih]

end Scan

/-- A text, read from left to right. -/
def scan (t : String) : Scan := t.toList.foldl Scan.step ⟨[], false⟩

/-- A text without the backslashes that protect. -/
def plain (t : String) : String := String.ofList ((scan t).taken.map Token.char)

/-- A text in which every mark is protected and nothing else is, and that leaves no backslash
waiting. -/
structure IsNeutral (t : String) : Prop where
  isWaiting_eq : (scan t).isWaiting = false
  isProtected_iff : ∀ token ∈ (scan t).taken, token.isProtected = true ↔ token.char ∈ marks

/-- The reserved characters are those of the list of marks. -/
theorem isReserved_iff_mem_marks {c : Char} : isReserved c = true ↔ c ∈ marks := by
  rw [isReserved, List.contains_iff_mem]
  exact Iff.rfl

theorem chars_scan (t : String) : (scan t).chars = t.toList := Scan.chars_foldl_step _ _

/-- An escaped text is scanned as one token for each character, with no escape left open. -/
theorem scan_escape (s : String) : scan (escape s) = ⟨s.toList.map Token.ofChar, false⟩ := by
  rw [scan, escape, String.toList_ofList, Scan.foldl_step_escapeChars, List.nil_append]

-- Three backslashes and a space: the first protects the second, and the third the space.
example : (scan (escape "\\ ")).taken = [⟨'\\', true⟩, ⟨' ', true⟩] := by decide

/-- The plain text of an escaped one is the text that was escaped. -/
theorem plain_escape (s : String) : plain (escape s) = s := by
  have hchar : Token.char ∘ Token.ofChar = id := rfl
  rw [plain, scan_escape, List.map_map, hchar, List.map_id, String.ofList_toList]

/-- An escaped text holds no active mark and no open escape. -/
theorem isNeutral_escape (s : String) : IsNeutral (escape s) := by
  refine ⟨by rw [scan_escape], fun token htoken => ?_⟩
  rw [scan_escape, List.mem_map] at htoken
  obtain ⟨c, -, rfl⟩ := htoken
  exact isReserved_iff_mem_marks

/-- A protected text is spelled by its tokens. -/
theorem flatMap_chars_map_ofChar (s : List Char) :
    (s.map Token.ofChar).flatMap Token.chars = escapeChars s := by
  have h := Scan.chars_foldl_step ⟨[], false⟩ (escapeChars s)
  rw [Scan.foldl_step_escapeChars] at h
  simpa [Scan.chars] using h

/-- A neutral text is the protected form of what it is taken for. -/
theorem escape_plain {t : String} (h : IsNeutral t) : escape (plain t) = t := by
  have htoken : ∀ token ∈ (scan t).taken, Token.ofChar token.char = token := by
    intro token htoken
    have hreserved : isReserved token.char = token.isProtected := by
      rw [Bool.eq_iff_iff, isReserved_iff_mem_marks, h.isProtected_iff token htoken]
    rw [Token.ofChar, hreserved]
  have htaken : ((scan t).taken.map Token.char).map Token.ofChar = (scan t).taken := by
    rw [List.map_map]
    exact (List.map_congr_left htoken).trans (List.map_id' _)
  have hchars : (scan t).taken.flatMap Token.chars = t.toList := by
    rw [← chars_scan, Scan.chars, h.isWaiting_eq, if_neg Bool.false_ne_true, List.append_nil]
  rw [escape, plain, String.toList_ofList, ← flatMap_chars_map_ofChar, htaken, hchars,
    String.ofList_toList]

/-- The escaped form of a text is the one neutral text whose plain text it is. -/
theorem escape_eq_iff {s t : String} : escape s = t ↔ IsNeutral t ∧ plain t = s := by
  constructor
  · rintro rfl
    exact ⟨isNeutral_escape s, plain_escape s⟩
  · rintro ⟨hneutral, rfl⟩
    exact escape_plain hneutral

/-- Different texts have different escaped forms. -/
theorem escape_injective : Function.Injective escape := Function.LeftInverse.injective plain_escape

/-! ## What protection adds -/

/-- The number of marks in a text. -/
def countMarks (s : String) : Nat := s.toList.countP (· ∈ marks)

/-- The reserved characters of a text are counted as the marks in it. -/
theorem countP_isReserved (s : List Char) : s.countP isReserved = s.countP (· ∈ marks) := by
  refine List.countP_congr fun c _ => ?_
  rw [isReserved_iff_mem_marks, decide_eq_true_iff]

/-- Protection adds a backslash for each mark, in characters, in bytes and in whatever is counted
one part after the other. -/
theorem size_escapeChars {size : List Char → Nat}
    (happend : ∀ xs ys, size (xs ++ ys) = size xs + size ys) (hbackslash : size ['\\'] = 1)
    (s : List Char) : size (escapeChars s) = size s + s.countP isReserved := by
  induction s with
  | nil => rfl
  | cons c rest ih =>
    have hcons : size (c :: rest) = size [c] + size rest := happend [c] rest
    by_cases h : isReserved c = true
    · have hprotected : size (escapeChars (c :: rest)) =
          size ['\\'] + (size [c] + size (escapeChars rest)) := by
        rw [escapeChars, if_pos h, ← happend, ← happend]
        rfl
      rw [hprotected, hcons, ih, hbackslash, List.countP_cons_of_pos h]
      omega
    · have hbare : size (escapeChars (c :: rest)) = size [c] + size (escapeChars rest) := by
        rw [escapeChars, if_neg h, ← happend]
        rfl
      rw [hbare, hcons, ih, List.countP_cons_of_neg h]
      omega

/-- Escaping adds one character for each mark. -/
theorem length_escape (s : String) : (escape s).length = s.length + countMarks s := by
  rw [escape, String.length_ofList, size_escapeChars (fun _ _ => List.length_append) rfl,
    countP_isReserved, String.length_toList, countMarks]

theorem utf8ByteSize_escape (s : String) :
    (escape s).utf8ByteSize = s.utf8ByteSize + countMarks s := by
  rw [escape, String.utf8ByteSize_ofList, size_escapeChars String.utf8Len_append rfl,
    countP_isReserved, String.utf8Len_toList, countMarks]

/-- Characters that are not reserved are left as they are. -/
theorem escapeChars_of_forall {s : List Char} (h : ∀ c ∈ s, isReserved c = false) :
    escapeChars s = s := by
  induction s with
  | nil => rfl
  | cons c rest ih =>
    obtain ⟨hc, hrest⟩ := List.forall_mem_cons.mp h
    rw [escapeChars, if_neg (by simp [hc]), ih hrest]

/-- The texts without a mark are their own protected forms. -/
theorem escape_eq_self_iff {s : String} : escape s = s ↔ countMarks s = 0 := by
  constructor
  · intro h
    have hlength := length_escape s
    rw [h] at hlength
    omega
  · intro h
    rw [countMarks, ← countP_isReserved, List.countP_eq_zero] at h
    rw [escape, escapeChars_of_forall fun c hc => by simpa using h c hc, String.ofList_toList]

/-- The parser takes a protected text for the characters of the text, the marks among them protected
and nothing else, and none of its backslashes is left waiting. The reader of protected texts reads
these and no others, as what they are taken for. Protection keeps texts apart, adds a backslash for
each mark, goes part by part, and does nothing the second time only if there is nothing to protect.
-/
theorem escape_neutralises :
    (∀ s, IsNeutral (escape s) ∧ plain (escape s) = s) ∧
    (∀ s t, unescape? t = some s ↔ IsNeutral t ∧ plain t = s) ∧
    (∀ s t, escape s = escape t ↔ s = t) ∧
    (∀ s, (escape s).length = s.length + countMarks s ∧
      (escape s).utf8ByteSize = s.utf8ByteSize + countMarks s) ∧
    (∀ s t, escape (s ++ t) = escape s ++ escape t) ∧
    ∀ s, escape (escape s) = escape s ↔ countMarks s = 0 := by
  refine ⟨fun s => ⟨isNeutral_escape s, plain_escape s⟩,
    fun s t => unescape?_eq_some_iff.trans escape_eq_iff, fun s t => escape_injective.eq_iff,
    fun s => ⟨length_escape s, utf8ByteSize_escape s⟩, escape_append, fun s => ?_⟩
  rw [escape_injective.eq_iff, escape_eq_self_iff]

end FacetedSearch.Text.Reserved
