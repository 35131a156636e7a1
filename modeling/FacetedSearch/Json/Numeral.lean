import FacetedSearch.Json.Fault

/-!
# Numerals

A numeral is an optional minus sign, digits without a superfluous zero in front, and optionally a
fraction and a power of ten. `Numeral.read` takes one off the head of a text and `Numeral.value?`
says what number it denotes: a whole number when it has neither fraction nor power and 64 bits can
hold it, and a binary number otherwise.
-/

namespace FacetedSearch.Json

/-- A numeral, its parts as written. -/
structure Numeral where
  negative : Bool
  whole : List Char
  fraction : List Char
  power : Option Int

namespace Numeral

def isDigit (c : Char) : Bool := '0' ≤ c && c ≤ '9'

def digitValue (c : Char) : Nat := c.toNat - '0'.toNat

/-- The number that digits denote. -/
def natValue (digits : List Char) : Nat :=
  digits.foldl (fun n c => 10 * n + digitValue c) 0

/-- The room for the digits of a significand. -/
def significandBound : Nat := 0x10000000000000000

/-- The significand with further digits, as many as there is room for, and the digits left over. -/
def gather (significand : Nat) : List Char → Nat × List Char
  | [] => (significand, [])
  | c :: rest =>
    let next := 10 * significand + digitValue c
    if next < significandBound then gather next rest else (significand, c :: rest)

/-- The binary number of a numeral. Whole digits without room still count as places; fraction digits
without room are dropped. -/
def binaryValue? (n : Numeral) : Option Binary :=
  let (significand, places) := gather 0 n.whole
  let (significand, dropped) := gather significand n.fraction
  let taken := n.fraction.length - dropped.length
  Binary.scaled? n.negative significand (places.length - taken + n.power.getD 0)

/-- A negative zero is no whole number, because a whole number has no sign to keep. -/
def wholeValue? (n : Numeral) : Option Whole :=
  let value := natValue n.whole
  if n.fraction ≠ [] ∨ n.power ≠ none then none
  else if n.negative then
    if value = 0 ∨ 0x8000000000000000 < value then none else Whole.ofInt? (-value)
  else Whole.ofInt? value

/-- The number that a numeral denotes; none when it is out of range. -/
def value? (n : Numeral) : Option Number :=
  match n.wholeValue? with
  | some whole => some (.whole whole)
  | none => n.binaryValue?.map .binary

/-- What a missing digit means: the numeral was cut short, or another character stands there. -/
def digitDue : List Char → Malformation
  | [] => .endOfValue
  | _ => .badNumber

/-- The digits in front of a point. A zero stands alone. -/
def readWhole (s : List Char) : Except Malformation (List Char × List Char) :=
  match s with
  | '0' :: rest =>
    match rest with
    | c :: _ => if isDigit c then .error .badNumber else .ok (['0'], rest)
    | [] => .ok (['0'], [])
  | c :: rest =>
    if isDigit c then .ok (c :: rest.takeWhile isDigit, rest.dropWhile isDigit)
    else .error .badNumber
  | [] => .error .endOfValue

/-- A point and the digits behind it, if there is a point. -/
def readFraction (s : List Char) : Except Malformation (List Char × List Char) :=
  match s with
  | '.' :: rest =>
    match rest.takeWhile isDigit with
    | [] => .error (digitDue rest)
    | digits => .ok (digits, rest.dropWhile isDigit)
  | _ => .ok ([], s)

/-- The sign of a power of ten and what follows it. -/
def readSign : List Char → Bool × List Char
  | '+' :: rest => (false, rest)
  | '-' :: rest => (true, rest)
  | s => (false, s)

/-- A power of ten, if there is one. -/
def readPower (s : List Char) : Except Malformation (Option Int × List Char) :=
  match s with
  | c :: rest =>
    if c = 'e' ∨ c = 'E' then
      let (negative, rest) := readSign rest
      match rest.takeWhile isDigit with
      | [] => .error (digitDue rest)
      | digits =>
        let power : Int := natValue digits
        .ok (some (if negative then -power else power), rest.dropWhile isDigit)
    else .ok (none, s)
  | [] => .ok (none, [])

/-- The numeral behind an optional minus sign. -/
def readUnsigned (negative : Bool) (s : List Char) : Except Malformation (Numeral × List Char) :=
  match readWhole s with
  | .error cause => .error cause
  | .ok (whole, s) =>
    match readFraction s with
    | .error cause => .error cause
    | .ok (fraction, s) =>
      match readPower s with
      | .error cause => .error cause
      | .ok (power, s) => .ok (⟨negative, whole, fraction, power⟩, s)

/-- The numeral at the head of a text. -/
def read (s : List Char) : Except Malformation (Numeral × List Char) :=
  match s with
  | '-' :: rest => readUnsigned true rest
  | _ => readUnsigned false s

/-! ## A numeral leaves less to read -/

/-- What stands behind the digits of a text is no longer than the text. -/
theorem length_dropWhile_isDigit_le (s : List Char) : (s.dropWhile isDigit).length ≤ s.length :=
  (List.dropWhile_sublist isDigit).length_le

/-- Reading the digits in front of a point takes at least one of them off the text. -/
theorem readWhole_shorter {s : List Char} {digits rest : List Char}
    (h : readWhole s = .ok (digits, rest)) : rest.length < s.length := by
  unfold readWhole at h
  split at h
  · split at h
    · split at h
      · simp at h
      · simp only [Except.ok.injEq, Prod.mk.injEq] at h
        simp [← h.2]
    · simp only [Except.ok.injEq, Prod.mk.injEq] at h
      simp [← h.2]
  · split at h
    · simp only [Except.ok.injEq, Prod.mk.injEq] at h
      rw [← h.2, List.length_cons]
      exact Nat.lt_succ_of_le (length_dropWhile_isDigit_le _)
    · simp at h
  · simp at h

theorem readFraction_le {s : List Char} {digits rest : List Char}
    (h : readFraction s = .ok (digits, rest)) : rest.length ≤ s.length := by
  unfold readFraction at h
  split at h
  · split at h
    · simp at h
    · simp only [Except.ok.injEq, Prod.mk.injEq] at h
      rw [← h.2, List.length_cons]
      exact Nat.le_succ_of_le (length_dropWhile_isDigit_le _)
  · simp only [Except.ok.injEq, Prod.mk.injEq] at h
    simp [h.2]

theorem readSign_le (s : List Char) : (readSign s).2.length ≤ s.length := by
  unfold readSign
  split <;> simp

theorem readPower_le {s : List Char} {power : Option Int} {rest : List Char}
    (h : readPower s = .ok (power, rest)) : rest.length ≤ s.length := by
  unfold readPower at h
  split at h
  · rename_i c tail
    split at h
    · dsimp only at h
      split at h
      · simp at h
      · simp only [Except.ok.injEq, Prod.mk.injEq] at h
        rw [← h.2, List.length_cons]
        exact Nat.le_succ_of_le (Nat.le_trans (length_dropWhile_isDigit_le _) (readSign_le tail))
    · simp only [Except.ok.injEq, Prod.mk.injEq] at h
      simp [← h.2]
  · simp only [Except.ok.injEq, Prod.mk.injEq] at h
    simp [← h.2]

/-- Reading a numeral behind its sign takes at least one digit off the text. -/
theorem readUnsigned_shorter {negative : Bool} {s : List Char} {n : Numeral} {rest : List Char}
    (h : readUnsigned negative s = .ok (n, rest)) : rest.length < s.length := by
  unfold readUnsigned at h
  split at h
  · simp at h
  · rename_i hwhole
    split at h
    · simp at h
    · rename_i hfraction
      split at h
      · simp at h
      · rename_i hpower
        simp only [Except.ok.injEq, Prod.mk.injEq] at h
        rw [← h.2]
        exact Nat.lt_of_le_of_lt (Nat.le_trans (readPower_le hpower) (readFraction_le hfraction))
          (readWhole_shorter hwhole)

/-- Reading a numeral takes at least one digit off the text. -/
theorem read_shorter {s : List Char} {n : Numeral} {rest : List Char}
    (h : read s = .ok (n, rest)) : rest.length < s.length := by
  unfold read at h
  split at h
  · exact Nat.lt_succ_of_lt (readUnsigned_shorter h)
  · exact readUnsigned_shorter h

end Numeral

end FacetedSearch.Json
