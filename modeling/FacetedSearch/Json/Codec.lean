import FacetedSearch.Json.Skip

/-!
# Typed values in JSON texts

A `Codec` reads values of one type and writes them. A record is described once, as a list of fields
in declaration order; it may be read from an object or from a list of its fields, and is written as
an object.

`Codec.decode` reads a whole text, `Codec.decodeHead` only the value at the head of one.
-/

namespace FacetedSearch.Json

/-- How values of a type are read, with a limit on the levels of nesting, and how they are written.
-/
structure Codec (α : Type) where
  read : Nat → Reader α
  write : α → Json

namespace Reader

/-- A value of a token that fits; any other token is of the wrong type. -/
def scalar (expected : String) (fit? : Token → Option (Except Mismatch α)) : Reader α :=
  .ofToken
    (fun token s =>
      match fit? token with
      | some (.ok a) => .ok (a, s)
      | some (.error cause) => .error (.mismatch cause)
      | none => .error (.mismatch (.wrongType token expected)))
    (by
      intro t s a rest h
      split at h
      · simp only [Except.ok.injEq, Prod.mk.injEq] at h
        simp [h.2]
      · simp at h
      · simp at h)

def text : Reader String :=
  scalar "a string" fun
    | .text value => some (.ok value)
    | _ => none

def boolean : Reader Bool :=
  scalar "a boolean" fun
    | .boolean value => some (.ok value)
    | _ => none

/-- A whole number between two bounds, the second one excluded. -/
def wholeBetween (expected : String) (least bound : Int) (make : Int → α) : Reader α :=
  scalar expected fun
    | .number (.whole n) =>
      if least ≤ n.val ∧ n.val < bound then some (.ok (make n.val))
      else some (.error (.wrongNumber n expected))
    | _ => none

/-- Null, or a value. -/
def optional (value : Reader α) : Reader (Option α) where
  run s :=
    match skipBlank s with
    | 'n' :: rest =>
      match readWord ['u', 'l', 'l'] rest with
      | .error cause => .error (.malformed cause)
      | .ok rest => .ok (none, rest)
    | _ => (value.map some).run s
  shorter {s a rest} h := by
    split at h
    · rename_i hs
      split at h
      · simp at h
      · rename_i hword
        simp only [Except.ok.injEq, Prod.mk.injEq] at h
        exact h.2 ▸ Nat.lt_of_le_of_lt (readWord_le hword) (lt_of_skipBlank_eq_cons hs)
    · exact (value.map some).shorter h

/-- A list of values, each read with one level less. -/
def list (levels : Nat) (item : Nat → Reader α) : Reader (List α) :=
  .ofToken
    (fun token s =>
      match token with
      | .openList =>
        match enter levels with
        | .error fault => .error fault
        | .ok level => readItems (item level) true s
      | token => .error (.mismatch (.wrongType token "a sequence")))
    (by
      intro t s a rest h
      split at h
      · split at h
        · simp at h
        · exact Nat.le_of_lt (readItems_shorter h)
      · simp at h)

/-- Puts the text that is read under a key; the last value of a key stays. -/
def putText (key : String) (entries : List (String × String)) :
    Except Fault (Reader (List (String × String))) :=
  .ok (text.map fun value => Keyed.put key value entries)

/-- An object whose values are texts, as entries in the order of their keys. -/
def texts (levels : Nat) : Reader (List (String × String)) :=
  .ofToken
    (fun token s =>
      match token with
      | .openObject =>
        match enter levels with
        | .error fault => .error fault
        | .ok _ => readMembers putText true [] s
      | token => .error (.mismatch (.wrongType token "a map")))
    (by
      intro t s a rest h
      split at h
      · split at h
        · simp at h
        · exact Nat.le_of_lt (readMembers_shorter h)
      · simp at h)

end Reader

/-! ## Choices -/

/-- The choice that a name stands for. -/
def chosen (choices : List (String × α)) (name : String) : Except Fault α :=
  match choices.lookup name with
  | some a => .ok a
  | none => .error (.mismatch (.unknownChoice name (choices.map Prod.fst)))

/-- The name of a choice, behind its opening quote. -/
def readName (choices : List (String × α)) (s : List Char) : Except Fault (α × List Char) :=
  match Literal.readChars s with
  | .error cause => .error (.malformed cause)
  | .ok (name, rest) =>
    match chosen choices (String.ofList name) with
    | .error fault => .error fault
    | .ok a => .ok (a, rest)

/-- The name of a choice as the first key of an object, which has to have one. -/
def readOnlyKey (choices : List (String × α)) (s : List Char) : Except Fault (α × List Char) :=
  match nextKey true s with
  | .error cause => .error (.malformed cause)
  | .ok (.done _) => .error (.malformed .valueDue)
  | .ok (.more s) => readName choices s

/-- The null behind the name of a choice. -/
def readUnit (s : List Char) : Except Fault (List Char) :=
  match readColon s with
  | .error cause => .error (.malformed cause)
  | .ok s =>
    match readToken s with
    | .error fault => .error fault
    | .ok (.null, rest) => .ok rest
    | .ok (token, _) => .error (.mismatch (.wrongType token "unit"))

/-- The end of an object with one member. -/
def readClosing (s : List Char) : Except Malformation (List Char) :=
  match skipBlank s with
  | [] => .error .endOfObject
  | '\x7d' :: rest => .ok rest
  | _ => .error .valueDue

/-- Reading the name of a choice takes at least its closing quote off the text. -/
theorem readName_shorter {choices : List (String × α)} {s rest : List Char} {a : α}
    (h : readName choices s = .ok (a, rest)) : rest.length < s.length := by
  unfold readName at h
  split at h
  · simp at h
  · rename_i hchars
    split at h
    · simp at h
    · simp only [Except.ok.injEq, Prod.mk.injEq] at h
      exact h.2 ▸ Literal.readChars_shorter hchars

/-- Reading the first key of an object takes at least the quotes of the key off the text. -/
theorem readOnlyKey_shorter {choices : List (String × α)} {s rest : List Char} {a : α}
    (h : readOnlyKey choices s = .ok (a, rest)) : rest.length < s.length := by
  unfold readOnlyKey at h
  split at h
  · simp at h
  · simp at h
  · rename_i hnext
    exact Nat.lt_trans (readName_shorter h) (nextKey_shorter (.inr hnext))

theorem readUnit_shorter {s rest : List Char} (h : readUnit s = .ok rest) :
    rest.length < s.length := by
  unfold readUnit at h
  split at h
  · simp at h
  · rename_i hcolon
    have := readColon_shorter hcolon
    split at h
    · simp at h
    · rename_i hread
      have := readToken_shorter hread
      simp only [Except.ok.injEq] at h
      rw [← h]
      omega
    · simp at h

theorem readClosing_shorter {s rest : List Char} (h : readClosing s = .ok rest) :
    rest.length < s.length := by
  unfold readClosing at h
  split at h
  · simp at h
  · rename_i hs
    simp only [Except.ok.injEq] at h
    exact h ▸ lt_of_skipBlank_eq_cons hs
  · simp at h

/-- The name of a choice, or an object with null under that name. -/
def readChoice (choices : List (String × α)) (levels : Nat) (s : List Char) :
    Except Fault (α × List Char) :=
  match skipBlank s with
  | [] => .error (.malformed .endOfValue)
  | '"' :: rest => readName choices rest
  | '\x7b' :: rest =>
    match enter levels with
    | .error fault => .error fault
    | .ok _ =>
      match readOnlyKey choices rest with
      | .error fault => .error fault
      | .ok (a, rest) =>
        match readUnit rest with
        | .error fault => .error fault
        | .ok rest =>
          match readClosing rest with
          | .error cause => .error (.malformed cause)
          | .ok rest => .ok (a, rest)
  | _ => .error (.malformed .valueDue)

/-- Reading a choice takes something off the text, whether it is a name or an object. -/
theorem readChoice_shorter {choices : List (String × α)} {levels : Nat} {s rest : List Char}
    {a : α} (h : readChoice choices levels s = .ok (a, rest)) : rest.length < s.length := by
  unfold readChoice at h
  split at h
  · simp at h
  · rename_i hs
    exact Nat.lt_trans (readName_shorter h) (lt_of_skipBlank_eq_cons hs)
  · rename_i hs
    have := lt_of_skipBlank_eq_cons hs
    split at h
    · simp at h
    · split at h
      · simp at h
      · rename_i hname
        have := readOnlyKey_shorter hname
        split at h
        · simp at h
        · rename_i hunit
          have := readUnit_shorter hunit
          split at h
          · simp at h
          · rename_i hclosing
            have := readClosing_shorter hclosing
            simp only [Except.ok.injEq, Prod.mk.injEq] at h
            rw [← h.2]
            omega
  · simp at h

/-! ## Records -/

/-- A field of a record. A required field has to be given. -/
structure Slot (α : Type) where
  name : String
  required : Bool
  read : Nat → Reader (α → α)
  write : α → Json

/-- A record: its name in messages, the values of fields that are not given, and its fields. -/
structure Record (α : Type) where
  name : String
  blank : α
  slots : List (Slot α)

/-- A field with its place in the record. -/
def Slot.field (name : String) (codec : Codec β) (get : α → β) (set : β → α → α) : Slot α where
  name := name
  required := false
  read levels := (codec.read levels).map set
  write a := codec.write (get a)

/-- The same field, required. -/
def Slot.needed (slot : Slot α) : Slot α := { slot with required := true }

/-- A record that is being read from an object, and the names of the fields that it has been given.
-/
structure Draft (α : Type) where
  value : α
  given : List String

/-- What the key of an object asks for: a field that has not been given, or a value to skip. -/
def Record.entry (record : Record α) (levels : Nat) (key : String) (draft : Draft α) :
    Except Fault (Reader (Draft α)) :=
  match record.slots.find? (·.name == key) with
  | none => .ok (skipper.map fun _ => draft)
  | some slot =>
    if draft.given.contains key then .error (.mismatch (.duplicateField key))
    else .ok ((slot.read levels).map fun set => ⟨set draft.value, key :: draft.given⟩)

/-- The record that was read from an object, if no required field is missing. -/
def Record.finish (record : Record α) (draft : Draft α) : Except Fault α :=
  match record.slots.find? fun slot => slot.required && !draft.given.contains slot.name with
  | some slot => .error (.mismatch (.missingField slot.name))
  | none => .ok draft.value

/-- A record as an object, behind its opening brace. -/
def Record.readObject (record : Record α) (levels : Nat) (s : List Char) :
    Except Fault (α × List Char) :=
  match readMembers (record.entry levels) true ⟨record.blank, []⟩ s with
  | .error fault => .error fault
  | .ok (draft, rest) =>
    match record.finish draft with
    | .error fault => .error fault
    | .ok a => .ok (a, rest)

/-- The end of a list that has given every field. -/
def readListEnd (s : List Char) : Except Malformation (List Char) :=
  match skipBlank s with
  | [] => .error .endOfList
  | ']' :: rest => .ok rest
  | ',' :: rest =>
    match skipBlank rest with
    | ']' :: _ => .error .trailingComma
    | _ => .error .trailingText
  | _ => .error .trailingText

/-- The fields of a record in declaration order, from the field at `index` on. A list may end before
all fields are given, if none of those left is required. -/
def Record.readFields (record : Record α) (levels : Nat) (slots : List (Slot α)) (index : Nat)
    (value : α) (s : List Char) : Except Fault (α × List Char) :=
  match slots with
  | [] =>
    match readListEnd s with
    | .error cause => .error (.malformed cause)
    | .ok rest => .ok (value, rest)
  | slot :: later =>
    match nextItem (index == 0) s with
    | .error cause => .error (.malformed cause)
    | .ok (.done rest) =>
      match slots.findIdx? (·.required) with
      | some n => .error (.mismatch (.wrongLength (index + n) record.name record.slots.length))
      | none => .ok (value, rest)
    | .ok (.more s) =>
      match (slot.read levels).run s with
      | .error fault => .error fault
      | .ok (set, s) => record.readFields levels later (index + 1) (set value) s

theorem readListEnd_shorter {s rest : List Char} (h : readListEnd s = .ok rest) :
    rest.length < s.length := by
  unfold readListEnd at h
  split at h
  · simp at h
  · rename_i hs
    simp only [Except.ok.injEq] at h
    exact h ▸ lt_of_skipBlank_eq_cons hs
  · split at h <;> simp at h
  · simp at h

/-- Reading the fields of a record from a list takes at least the closing bracket off the text. -/
theorem Record.readFields_shorter {record : Record α} {levels index : Nat} {slots : List (Slot α)}
    {value a : α} {s rest : List Char}
    (h : record.readFields levels slots index value s = .ok (a, rest)) :
    rest.length < s.length := by
  induction slots generalizing index value s with
  | nil =>
    unfold Record.readFields at h
    split at h
    · simp at h
    · rename_i hend
      simp only [Except.ok.injEq, Prod.mk.injEq] at h
      exact h.2 ▸ readListEnd_shorter hend
  | cons slot later ih =>
    unfold Record.readFields at h
    split at h
    · simp at h
    · rename_i hnext
      split at h
      · simp at h
      · simp only [Except.ok.injEq, Prod.mk.injEq] at h
        exact h.2 ▸ nextItem_done hnext
    · rename_i hnext
      split at h
      · simp at h
      · rename_i hrun
        have := ih h
        have := (slot.read levels).shorter hrun
        have := nextItem_more hnext
        omega

/-- Reading a record from an object takes at least the closing brace off the text. -/
theorem Record.readObject_shorter {record : Record α} {levels : Nat} {s rest : List Char} {a : α}
    (h : record.readObject levels s = .ok (a, rest)) : rest.length < s.length := by
  unfold Record.readObject at h
  split at h
  · simp at h
  · rename_i hread
    split at h
    · simp at h
    · simp only [Except.ok.injEq, Prod.mk.injEq] at h
      exact h.2 ▸ readMembers_shorter hread

/-- What follows the token of a record. -/
def Record.readAfter (record : Record α) (levels : Nat) (token : Token) (s : List Char) :
    Except Fault (α × List Char) :=
  match token with
  | .openObject =>
    match enter levels with
    | .error fault => .error fault
    | .ok level => record.readObject level s
  | .openList =>
    match enter levels with
    | .error fault => .error fault
    | .ok level => record.readFields level record.slots 0 record.blank s
  | token => .error (.mismatch (.wrongType token ("struct " ++ record.name)))

/-- Behind its first token, reading a record leaves no more of the text than there was. -/
theorem Record.readAfter_le {record : Record α} {levels : Nat} {token : Token}
    {s rest : List Char} {a : α} (h : record.readAfter levels token s = .ok (a, rest)) :
    rest.length ≤ s.length := by
  unfold Record.readAfter at h
  split at h
  · split at h
    · simp at h
    · exact Nat.le_of_lt (Record.readObject_shorter h)
  · split at h
    · simp at h
    · exact Nat.le_of_lt (Record.readFields_shorter h)
  · simp at h

/-! ## Codecs -/

namespace Codec

def text : Codec String := ⟨fun _ => .text, .text⟩

def boolean : Codec Bool := ⟨fun _ => .boolean, .boolean⟩

def uint64 : Codec UInt64 :=
  ⟨fun _ => .wholeBetween "u64" 0 0x10000000000000000 fun n => UInt64.ofNat n.toNat, Json.ofUInt64⟩

def uint32 : Codec UInt32 :=
  ⟨fun _ => .wholeBetween "u32" 0 0x100000000 fun n => UInt32.ofNat n.toNat, Json.ofUInt32⟩

def int64 : Codec Int64 :=
  ⟨fun _ => .wholeBetween "i64" (-0x8000000000000000) 0x8000000000000000 Int64.ofInt, Json.ofInt64⟩

/-- Any value. -/
def json : Codec Json := ⟨reader, id⟩

def optional (codec : Codec α) : Codec (Option α) :=
  ⟨fun levels => (codec.read levels).optional, Json.ofOption codec.write⟩

def list (codec : Codec α) : Codec (List α) :=
  ⟨fun levels => .list levels codec.read, fun items => .list (items.map codec.write)⟩

/-- One of a few named choices. -/
def choice (choices : List (String × α)) (name : α → String) : Codec α where
  read levels := ⟨readChoice choices levels, readChoice_shorter⟩
  write a := .text (name a)

def record (record : Record α) : Codec α where
  read levels := .ofToken (record.readAfter levels) Record.readAfter_le
  write a := .object (record.slots.map fun slot => (slot.name, slot.write a))

/-- The same texts for the values of another type. -/
def map (codec : Codec α) (f : α → β) (g : β → α) : Codec β :=
  ⟨fun levels => (codec.read levels).map f, fun b => codec.write (g b)⟩

/-- The value at the head of a text. -/
def decodeHead (codec : Codec α) (s : String) : Except Fault α :=
  match (codec.read levelLimit).run s.toList with
  | .error fault => .error fault
  | .ok (a, _) => .ok a

/-- The value that a whole text denotes. -/
def decode (codec : Codec α) (s : String) : Except Fault α :=
  match (codec.read levelLimit).run s.toList with
  | .error fault => .error fault
  | .ok (a, rest) =>
    match skipBlank rest with
    | [] => .ok a
    | _ => .error (.malformed .trailingText)

end Codec

end FacetedSearch.Json
