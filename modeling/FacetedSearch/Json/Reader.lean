import FacetedSearch.Json.Literal
import FacetedSearch.Json.Numeral
import FacetedSearch.Keyed

/-!
# Reading JSON texts

A `Reader` takes a value off the head of a text and leaves a shorter one, or finds a fault. The text
is read once from left to right, so of two faults the first one counts. Lists and objects are read
by loops over readers; each level of nesting uses up one of a limited number of levels.

`Json.reader levels` reads any value with at most `levels` open lists and objects.
-/

namespace FacetedSearch.Json

/-- Takes a value off the head of a text. What is left is shorter. -/
structure Reader (α : Type) where
  run : List Char → Except Fault (α × List Char)
  shorter : ∀ {s a rest}, run s = .ok (a, rest) → rest.length < s.length

/-- The number of lists and objects that may be open at once. -/
def levelLimit : Nat := 127

/-- The white space between the parts of a JSON text. -/
def isBlank (c : Char) : Bool := c == ' ' || c == '\n' || c == '\t' || c == '\r'

def skipBlank (s : List Char) : List Char := s.dropWhile isBlank

/-- Leaving white space out does not make a text longer. -/
theorem skipBlank_le (s : List Char) : (skipBlank s).length ≤ s.length :=
  (List.dropWhile_sublist isBlank).length_le

/-- What stands behind the first character that is no white space is shorter than the text. -/
theorem lt_of_skipBlank_eq_cons {s rest : List Char} {c : Char} (h : skipBlank s = c :: rest) :
    rest.length < s.length := by
  have := skipBlank_le s
  rw [h, List.length_cons] at this
  omega

/-- What is left behind white space is no longer than the text. -/
private theorem le_of_skipBlank_eq {s rest : List Char} (h : skipBlank s = rest) :
    rest.length ≤ s.length :=
  h ▸ skipBlank_le s

/-! ## Tokens -/

/-- The rest of a word whose first letter has been read. -/
def readWord : List Char → List Char → Except Malformation (List Char)
  | [], s => .ok s
  | _ :: _, [] => .error .endOfValue
  | letter :: word, c :: rest => if c = letter then readWord word rest else .error .wordDue

/-- Reading the rest of a word leaves no more of the text than there was. -/
theorem readWord_le {word s rest : List Char} (h : readWord word s = .ok rest) :
    rest.length ≤ s.length := by
  induction word generalizing s with
  | nil => simp_all [readWord]
  | cons letter word ih =>
    cases s with
    | nil => simp [readWord] at h
    | cons c s =>
      simp only [readWord] at h
      split at h
      · exact Nat.le_succ_of_le (ih h)
      · simp at h

/-- A word as a token. -/
def wordToken (token : Token) (word : List Char) (s : List Char) :
    Except Malformation (Token × List Char) :=
  match readWord word s with
  | .error cause => .error cause
  | .ok rest => .ok (token, rest)

/-- A numeral as a token. -/
def numberToken (s : List Char) : Except Malformation (Token × List Char) :=
  match Numeral.read s with
  | .error cause => .error cause
  | .ok (numeral, rest) =>
    match numeral.value? with
    | some value => .ok (.number value, rest)
    | none => .error .numberOutOfRange

/-- A literal as a token, behind its opening quote. -/
def textToken (s : List Char) : Except Malformation (Token × List Char) :=
  match Literal.readChars s with
  | .error cause => .error cause
  | .ok (chars, rest) => .ok (.text (String.ofList chars), rest)

/-- The token at the head of a text that does not begin with white space. -/
def headToken (s : List Char) : Except Malformation (Token × List Char) :=
  match s with
  | [] => .error .endOfValue
  | 'n' :: rest => wordToken .null ['u', 'l', 'l'] rest
  | 't' :: rest => wordToken (.boolean true) ['r', 'u', 'e'] rest
  | 'f' :: rest => wordToken (.boolean false) ['a', 'l', 's', 'e'] rest
  | '"' :: rest => textToken rest
  | '[' :: rest => .ok (.openList, rest)
  | '\x7b' :: rest => .ok (.openObject, rest)
  | c :: _ => if c = '-' ∨ Numeral.isDigit c then numberToken s else .error .valueDue

/-- The token at the head of a text. -/
def readToken (s : List Char) : Except Fault (Token × List Char) :=
  match headToken (skipBlank s) with
  | .error cause => .error (.malformed cause)
  | .ok result => .ok result

theorem wordToken_le {token t : Token} {word s rest : List Char}
    (h : wordToken token word s = .ok (t, rest)) : rest.length ≤ s.length := by
  unfold wordToken at h
  split at h
  · simp at h
  · rename_i hword
    simp only [Except.ok.injEq, Prod.mk.injEq] at h
    exact h.2 ▸ readWord_le hword

theorem numberToken_shorter {s rest : List Char} {t : Token}
    (h : numberToken s = .ok (t, rest)) : rest.length < s.length := by
  unfold numberToken at h
  split at h
  · simp at h
  · rename_i hread
    split at h
    · simp only [Except.ok.injEq, Prod.mk.injEq] at h
      exact h.2 ▸ Numeral.read_shorter hread
    · simp at h

theorem textToken_shorter {s rest : List Char} {t : Token}
    (h : textToken s = .ok (t, rest)) : rest.length < s.length := by
  unfold textToken at h
  split at h
  · simp at h
  · rename_i hread
    simp only [Except.ok.injEq, Prod.mk.injEq] at h
    exact h.2 ▸ Literal.readChars_shorter hread

/-- Every token at the head of a text takes at least one character off it. -/
theorem headToken_shorter {s rest : List Char} {t : Token} (h : headToken s = .ok (t, rest)) :
    rest.length < s.length := by
  unfold headToken at h
  split at h
  · simp at h
  · exact Nat.lt_succ_of_le (wordToken_le h)
  · exact Nat.lt_succ_of_le (wordToken_le h)
  · exact Nat.lt_succ_of_le (wordToken_le h)
  · exact Nat.lt_succ_of_lt (textToken_shorter h)
  · simp only [Except.ok.injEq, Prod.mk.injEq] at h
    simp [← h.2]
  · simp only [Except.ok.injEq, Prod.mk.injEq] at h
    simp [← h.2]
  · split at h
    · exact numberToken_shorter h
    · simp at h

/-- Every token takes at least one character off a text, white space in front of it or not. -/
theorem readToken_shorter {s rest : List Char} {t : Token} (h : readToken s = .ok (t, rest)) :
    rest.length < s.length := by
  unfold readToken at h
  split at h
  · simp at h
  · rename_i hhead
    simp only [Except.ok.injEq] at h
    exact Nat.lt_of_lt_of_le (headToken_shorter (h ▸ hhead)) (skipBlank_le s)

namespace Reader

/-- The same text, its value changed. -/
def map (f : α → β) (reader : Reader α) : Reader β where
  run s :=
    match reader.run s with
    | .error fault => .error fault
    | .ok (a, rest) => .ok (f a, rest)
  shorter {s b rest} h := by
    split at h
    · simp at h
    · rename_i hrun
      simp only [Except.ok.injEq, Prod.mk.injEq] at h
      exact h.2 ▸ reader.shorter hrun

/-- A reader that goes on from the token at the head of a text. -/
def ofToken (next : Token → List Char → Except Fault (α × List Char))
    (hnext : ∀ {t s a rest}, next t s = .ok (a, rest) → rest.length ≤ s.length) : Reader α where
  run s :=
    match readToken s with
    | .error fault => .error fault
    | .ok (token, rest) => next token rest
  shorter {s a rest} h := by
    split at h
    · simp at h
    · rename_i hread
      exact Nat.lt_of_le_of_lt (hnext h) (readToken_shorter hread)

end Reader

/-! ## Lists and objects -/

/-- Where a loop over the parts of a list or an object stands. -/
inductive Progress where
  | done (rest : List Char)
  | more (rest : List Char)

/-- Whether a list goes on. `first` tells that nothing of it has been read. -/
def nextItem (first : Bool) (s : List Char) : Except Malformation Progress :=
  match skipBlank s with
  | [] => .error .endOfList
  | ']' :: rest => .ok (.done rest)
  | c :: rest =>
    if first then .ok (.more (c :: rest))
    else if c = ',' then
      match skipBlank rest with
      | [] => .error .endOfValue
      | ']' :: _ => .error .trailingComma
      | item => .ok (.more item)
    else .error .listEndDue

/-- Whether an object goes on; if so, what follows the opening quote of the next key. -/
def nextKey (first : Bool) (s : List Char) : Except Malformation Progress :=
  match skipBlank s with
  | [] => .error .endOfObject
  | '\x7d' :: rest => .ok (.done rest)
  | c :: rest =>
    if first then
      if c = '"' then .ok (.more rest) else .error .keyNotText
    else if c = ',' then
      match skipBlank rest with
      | [] => .error .endOfValue
      | '"' :: key => .ok (.more key)
      | '\x7d' :: _ => .error .trailingComma
      | _ => .error .keyNotText
    else .error .objectEndDue

/-- The colon between a key and its value. -/
def readColon (s : List Char) : Except Malformation (List Char) :=
  match skipBlank s with
  | [] => .error .endOfObject
  | ':' :: rest => .ok rest
  | _ => .error .colonDue

/-- The end of a list takes at least the closing bracket off the text. -/
theorem nextItem_done {first : Bool} {s rest : List Char}
    (h : nextItem first s = .ok (.done rest)) : rest.length < s.length := by
  unfold nextItem at h
  split at h
  · simp at h
  · rename_i hs
    simp only [Except.ok.injEq, Progress.done.injEq] at h
    exact h ▸ lt_of_skipBlank_eq_cons hs
  · split at h
    · simp at h
    · split at h
      · split at h <;> simp at h
      · simp at h

/-- In front of the next item there is no more of the text than there was. -/
theorem nextItem_more {first : Bool} {s rest : List Char}
    (h : nextItem first s = .ok (.more rest)) : rest.length ≤ s.length := by
  unfold nextItem at h
  split at h
  · simp at h
  · simp at h
  · rename_i hs
    split at h
    · simp only [Except.ok.injEq, Progress.more.injEq] at h
      exact h ▸ le_of_skipBlank_eq hs
    · split at h
      · have hlt := lt_of_skipBlank_eq_cons hs
        split at h
        · simp at h
        · simp at h
        · simp only [Except.ok.injEq, Progress.more.injEq] at h
          exact h ▸ Nat.le_of_lt (Nat.lt_of_le_of_lt (skipBlank_le _) hlt)
      · simp at h

/-- An object that ends or goes on takes a brace or the quote of a key off the text. -/
theorem nextKey_shorter {first : Bool} {s rest : List Char}
    (h : nextKey first s = .ok (.done rest) ∨ nextKey first s = .ok (.more rest)) :
    rest.length < s.length := by
  unfold nextKey at h
  split at h
  · simp at h
  · rename_i hs
    simp only [Except.ok.injEq, Progress.done.injEq, reduceCtorEq, or_false] at h
    exact h ▸ lt_of_skipBlank_eq_cons hs
  · rename_i hs
    have hlt := lt_of_skipBlank_eq_cons hs
    split at h
    · split at h
      · simp only [Except.ok.injEq, Progress.more.injEq, reduceCtorEq, false_or] at h
        exact h ▸ hlt
      · simp at h
    · split at h
      · split at h
        · simp at h
        · rename_i hrest
          simp only [Except.ok.injEq, Progress.more.injEq, reduceCtorEq, false_or] at h
          exact h ▸ Nat.lt_trans (lt_of_skipBlank_eq_cons hrest) hlt
        · simp at h
        · simp at h
      · simp at h

/-- Reading the colon behind a key takes at least the colon off the text. -/
theorem readColon_shorter {s rest : List Char} (h : readColon s = .ok rest) :
    rest.length < s.length := by
  unfold readColon at h
  split at h
  · simp at h
  · rename_i hs
    simp only [Except.ok.injEq] at h
    exact h ▸ lt_of_skipBlank_eq_cons hs
  · simp at h

/-- The items of a list up to its closing bracket. -/
def readItems (item : Reader α) (first : Bool) (s : List Char) :
    Except Fault (List α × List Char) :=
  match _hnext : nextItem first s with
  | .error cause => .error (.malformed cause)
  | .ok (.done rest) => .ok ([], rest)
  | .ok (.more s') =>
    match _hitem : item.run s' with
    | .error fault => .error fault
    | .ok (a, s'') =>
      match readItems item false s'' with
      | .error fault => .error fault
      | .ok (items, rest) => .ok (a :: items, rest)
termination_by s.length
decreasing_by exact Nat.lt_of_lt_of_le (item.shorter _hitem) (nextItem_more _hnext)

/-- One member of an object, behind the opening quote of its key. `entry` chooses the reader of the
value by the key and by what has been read so far. -/
def readMember (entry : String → σ → Except Fault (Reader σ)) (state : σ) (s : List Char) :
    Except Fault (σ × List Char) :=
  match Literal.readChars s with
  | .error cause => .error (.malformed cause)
  | .ok (key, s) =>
    match entry (String.ofList key) state with
    | .error fault => .error fault
    | .ok value =>
      match readColon s with
      | .error cause => .error (.malformed cause)
      | .ok s => value.run s

/-- Reading a member takes at least its key and its colon off the text. -/
theorem readMember_shorter {entry : String → σ → Except Fault (Reader σ)} {state state' : σ}
    {s rest : List Char} (h : readMember entry state s = .ok (state', rest)) :
    rest.length < s.length := by
  unfold readMember at h
  split at h
  · simp at h
  · rename_i hkey
    split at h
    · simp at h
    · rename_i value _
      split at h
      · simp at h
      · rename_i hcolon
        have := value.shorter h
        have := readColon_shorter hcolon
        have := Literal.readChars_shorter hkey
        omega

/-- The members of an object up to its closing brace. -/
def readMembers (entry : String → σ → Except Fault (Reader σ)) (first : Bool) (state : σ)
    (s : List Char) : Except Fault (σ × List Char) :=
  match _hnext : nextKey first s with
  | .error cause => .error (.malformed cause)
  | .ok (.done rest) => .ok (state, rest)
  | .ok (.more s') =>
    match _hmember : readMember entry state s' with
    | .error fault => .error fault
    | .ok (state', s'') => readMembers entry false state' s''
termination_by s.length
decreasing_by exact Nat.lt_trans (readMember_shorter _hmember) (nextKey_shorter (.inr _hnext))

/-- Reading the items of a list takes at least the closing bracket off the text. -/
theorem readItems_shorter {item : Reader α} {first : Bool} {s rest : List Char} {items : List α}
    (h : readItems item first s = .ok (items, rest)) : rest.length < s.length := by
  fun_induction readItems item first s generalizing items rest with
  | case1 => simp at h
  | case2 _ _ _ hnext =>
    simp only [Except.ok.injEq, Prod.mk.injEq] at h
    exact h.2 ▸ nextItem_done hnext
  | case3 => simp at h
  | case4 => simp at h
  | case5 _ _ _ hnext _ _ hitem _ _ hread ih =>
    simp only [Except.ok.injEq, Prod.mk.injEq] at h
    have := ih hread
    have := item.shorter hitem
    have := nextItem_more hnext
    rw [← h.2]
    omega

/-- Reading the members of an object takes at least the closing brace off the text. -/
theorem readMembers_shorter {entry : String → σ → Except Fault (Reader σ)} {first : Bool}
    {state state' : σ} {s rest : List Char}
    (h : readMembers entry first state s = .ok (state', rest)) : rest.length < s.length := by
  fun_induction readMembers entry first state s generalizing state' rest with
  | case1 => simp at h
  | case2 _ _ _ _ hnext =>
    simp only [Except.ok.injEq, Prod.mk.injEq] at h
    exact h.2 ▸ nextKey_shorter (.inl hnext)
  | case3 => simp at h
  | case4 _ _ _ _ hnext _ _ hmember ih =>
    have := ih h
    have := readMember_shorter hmember
    have := nextKey_shorter (.inr hnext)
    omega

/-! ## Any value -/

/-- One level of nesting, if one is left. -/
def enter (levels : Nat) : Except Fault Nat :=
  match levels with
  | 0 => .error (.malformed .tooDeep)
  | level + 1 => .ok level

/-- Puts the value that a reader finds under a key; the last value of a key stays. -/
def putMember (value : Reader Json) (key : String) (members : List (String × Json)) :
    Except Fault (Reader (List (String × Json))) :=
  .ok (value.map fun json => Keyed.put key json members)

/-- What follows a token of a value whose items and members `inner` reads. -/
def readAfter (inner : Option (Reader Json)) (token : Token) (s : List Char) :
    Except Fault (Json × List Char) :=
  match token with
  | .null => .ok (.null, s)
  | .boolean value => .ok (.boolean value, s)
  | .number value => .ok (.number value, s)
  | .text value => .ok (.text value, s)
  | .openList =>
    match inner with
    | none => .error (.malformed .tooDeep)
    | some item =>
      match readItems item true s with
      | .error fault => .error fault
      | .ok (items, rest) => .ok (.list items, rest)
  | .openObject =>
    match inner with
    | none => .error (.malformed .tooDeep)
    | some value =>
      match readMembers (putMember value) true [] s with
      | .error fault => .error fault
      | .ok (members, rest) => .ok (.object members, rest)

/-- Behind its first token, reading a value leaves no more of the text than there was. -/
theorem readAfter_le {inner : Option (Reader Json)} {token : Token} {s rest : List Char}
    {json : Json} (h : readAfter inner token s = .ok (json, rest)) : rest.length ≤ s.length := by
  unfold readAfter at h
  split at h
  iterate 4
    simp only [Except.ok.injEq, Prod.mk.injEq] at h
    simp [h.2]
  · split at h
    · simp at h
    · split at h
      · simp at h
      · rename_i hread
        simp only [Except.ok.injEq, Prod.mk.injEq] at h
        exact h.2 ▸ Nat.le_of_lt (readItems_shorter hread)
  · split at h
    · simp at h
    · split at h
      · simp at h
      · rename_i hread
        simp only [Except.ok.injEq, Prod.mk.injEq] at h
        exact h.2 ▸ Nat.le_of_lt (readMembers_shorter hread)

/-- Any value with at most `levels` open lists and objects. -/
def reader (levels : Nat) : Reader Json :=
  match levels with
  | 0 => .ofToken (readAfter none) readAfter_le
  | level + 1 => .ofToken (readAfter (some (reader level))) readAfter_le

end FacetedSearch.Json
