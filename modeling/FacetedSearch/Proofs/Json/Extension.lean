import FacetedSearch.Proofs.Json.Codecs
import FacetedSearch.Proofs.Json.Scanning
import Mathlib.Data.List.TakeWhile

/-!
# A text means the same inside a longer one

`Reader.Extends` relates two readers of one type: what the first one takes off a text, the second
one takes off the text with more behind it. A reader is extended by itself, and by the same reader
with more levels of nesting left (`Codec.Grows`). So a value that stands inside a text means what it
means for itself, whatever is left of the levels there: `Reader.Settles`.
-/

namespace FacetedSearch.Json

open Numeral (Stops)

/-- What a reader takes off a text, a longer one takes off the text with more behind it. -/
structure Reader.Extends (reader longer : Reader α) : Prop where
  ne_nil : ∀ {s a rest}, reader.run s = .ok (a, rest) → skipBlank s ≠ []
  run_append : ∀ {s a rest t}, Stops t → reader.run s = .ok (a, rest) →
    longer.run (s ++ t) = .ok (a, rest ++ t)

namespace Reader

variable {reader longer : Reader α}

/-- A changed value is read from a longer text as the value itself is. -/
theorem Extends.map (h : reader.Extends longer) (f : α → β) :
    (reader.map f).Extends (longer.map f) where
  ne_nil {s a rest} hrun := by
    simp only [Reader.map] at hrun
    split at hrun
    · cases hrun
    · exact h.ne_nil ‹_›
  run_append {s a rest t} ht hrun := by
    simp only [Reader.map] at hrun ⊢
    split at hrun
    · cases hrun
    · rename_i hinner
      cases hrun
      simp only [h.run_append ht hinner]

/-- A reader that goes on from a token extends another one if what follows the token does. -/
theorem extends_ofToken {next next' : Token → List Char → Except Fault (α × List Char)}
    {hnext : ∀ {t s a rest}, next t s = .ok (a, rest) → rest.length ≤ s.length}
    {hnext' : ∀ {t s a rest}, next' t s = .ok (a, rest) → rest.length ≤ s.length}
    (h : ∀ {token s a rest t}, Stops t → next token s = .ok (a, rest) →
      next' token (s ++ t) = .ok (a, rest ++ t)) :
    (Reader.ofToken next @hnext).Extends (Reader.ofToken next' @hnext') where
  ne_nil {s a rest} hrun := by
    simp only [Reader.ofToken] at hrun
    split at hrun
    · cases hrun
    · exact skipBlank_ne_nil_of_readToken ‹_›
  run_append {s a rest t} ht hrun := by
    simp only [Reader.ofToken] at hrun ⊢
    split at hrun
    · cases hrun
    · rename_i htoken
      simp only [readToken_append ht htoken, h ht hrun]

end Reader

/-! ## Lists, objects and skipped values -/

section

variable {s t rest : List Char}

/-- The items of a list are read the same in front of more text, and with more room. -/
theorem readItems_append {item item' : Reader α} (hitem : item.Extends item') {first : Bool}
    {items : List α} (ht : Stops t) (h : readItems item first s = .ok (items, rest)) :
    readItems item' first (s ++ t) = .ok (items, rest ++ t) := by
  fun_induction readItems item first s generalizing items rest with
  | case1 => cases h
  | case2 _ _ _ hnext =>
    cases h
    exact readItems_of_done (nextItem_append hnext)
  | case3 => cases h
  | case4 => cases h
  | case5 _ _ _ hnext _ _ hrun _ _ hread ih =>
    cases h
    exact readItems_of_more (nextItem_append hnext) (hitem.run_append ht hrun) (ih hread)

/-- The choice of a longer reader for each key. -/
def EntryExtends (entry entry' : String → σ → Except Fault (Reader σ)) : Prop :=
  ∀ key state reader, entry key state = .ok reader →
    ∃ longer, entry' key state = .ok longer ∧ reader.Extends longer

/-- A member is read the same in front of more text, if the readers of the values are. -/
theorem readMember_append {entry entry' : String → σ → Except Fault (Reader σ)}
    (hentry : EntryExtends entry entry') {state state' : σ} (ht : Stops t)
    (h : readMember entry state s = .ok (state', rest)) :
    readMember entry' state (s ++ t) = .ok (state', rest ++ t) := by
  unfold readMember at h
  split at h
  · cases h
  · rename_i hkey
    split at h
    · cases h
    · rename_i hreader
      obtain ⟨longer, hlonger, hextends⟩ := hentry _ _ _ hreader
      split at h
      · cases h
      · rename_i hcolon
        simp only [readMember, Literal.readChars_append hkey, hlonger, readColon_append hcolon,
          hextends.run_append ht h]

/-- The members of an object are read the same in front of more text. -/
theorem readMembers_append {entry entry' : String → σ → Except Fault (Reader σ)}
    (hentry : EntryExtends entry entry') {first : Bool} {state state' : σ} (ht : Stops t)
    (h : readMembers entry first state s = .ok (state', rest)) :
    readMembers entry' first state (s ++ t) = .ok (state', rest ++ t) := by
  fun_induction readMembers entry first state s generalizing state' rest with
  | case1 => cases h
  | case2 _ _ _ _ hnext =>
    cases h
    exact readMembers_of_done (nextKey_append hnext)
  | case3 => cases h
  | case4 _ _ _ _ hnext _ _ hmember ih =>
    rw [readMembers_of_more (nextKey_append hnext) (readMember_append hentry ht hmember), ih h]

end

/-- A value that is skipped is skipped the same in front of more text. -/
theorem skipper_extends : skipper.Extends skipper where
  ne_nil {s a rest} hrun hnil := by
    have hhead : skipHead s = .error .endOfValue := by rw [skipHead, hnil]
    have hskip : skipFrom .value [] s = .error .endOfValue := by
      rw [skipFrom]
      split <;> simp_all
    simp only [skipper, hskip] at hrun
    cases hrun
  run_append {s a rest t} ht hrun := by
    simp only [skipper] at hrun ⊢
    split at hrun
    · cases hrun
    · rename_i hskip
      cases hrun
      simp only [skipFrom_append ht hskip]

/-! ## Any value -/

/-- What follows the token of a value is read the same in front of more text. -/
theorem readAfter_append {inner inner' : Option (Reader Json)}
    (hinner : ∀ item ∈ inner, ∃ item' ∈ inner', item.Extends item') {token : Token} {json : Json}
    {s rest t : List Char} (ht : Stops t) (h : readAfter inner token s = .ok (json, rest)) :
    readAfter inner' token (s ++ t) = .ok (json, rest ++ t) := by
  cases token with
  | null | boolean | number | text =>
    cases h
    rfl
  | openList =>
    cases inner with
    | none => cases h
    | some item =>
      obtain ⟨item', rfl, hitem⟩ := hinner item rfl
      simp only [readAfter] at h ⊢
      split at h
      · cases h
      · rename_i hread
        cases h
        simp only [readItems_append hitem ht hread]
  | openObject =>
    cases inner with
    | none => cases h
    | some value =>
      obtain ⟨value', rfl, hvalue⟩ := hinner value rfl
      have hentry : EntryExtends (putMember value) (putMember value') := by
        rintro key members _ ⟨⟩
        exact ⟨_, rfl, hvalue.map _⟩
      simp only [readAfter] at h ⊢
      split at h
      · cases h
      · rename_i hread
        cases h
        simp only [readMembers_append hentry ht hread]

/-- Any value is read the same in front of more text and with more levels of nesting left. -/
theorem reader_extends {levels levels' : Nat} (hle : levels ≤ levels') :
    (reader levels).Extends (reader levels') := by
  induction levels generalizing levels' with
  | zero =>
    cases levels' with
    | zero | succ =>
      exact Reader.extends_ofToken (readAfter_append fun _ h => absurd h (Option.not_mem_none _))
  | succ level ih =>
    cases levels' with
    | zero => omega
    | succ level' =>
      have hinner := ih (Nat.le_of_succ_le_succ hle)
      refine Reader.extends_ofToken (readAfter_append ?_)
      rintro _ ⟨⟩
      exact ⟨_, rfl, hinner⟩

/-! ## Typed values -/

/-- Whatever a codec reads, it reads with more levels left, and with more text behind it. -/
def Codec.Grows (codec : Codec α) : Prop :=
  ∀ levels levels', levels ≤ levels' → (codec.read levels).Extends (codec.read levels')

/-- A scalar is read the same in front of more text. -/
theorem Reader.scalar_extends (expected : String) (fit? : Token → Option (Except Mismatch α)) :
    (Reader.scalar expected fit?).Extends (Reader.scalar expected fit?) := by
  refine Reader.extends_ofToken fun {token s a rest t} _ h => ?_
  split at h
  · cases h
    simp_all
  · cases h
  · cases h

/-- Null or a value is read the same in front of more text, if the value is. -/
theorem Reader.Extends.optional {value value' : Reader α} (h : value.Extends value') :
    value.optional.Extends value'.optional where
  ne_nil {s a rest} hrun := by
    simp only [Reader.optional] at hrun
    split at hrun
    · rename_i hs
      exact hs ▸ List.cons_ne_nil _ _
    · exact (h.map some).ne_nil hrun
  run_append {s a rest t} ht hrun := by
    simp only [Reader.optional] at hrun ⊢
    split at hrun
    · rename_i hs
      split at hrun
      · cases hrun
      · rename_i hword
        cases hrun
        have hskip := skipBlank_append_of_ne_nil (t := t) (hs ▸ List.cons_ne_nil _ _)
        simp only [hskip, hs, List.cons_append, readWord_append hword]
    · rename_i hnull
      have hs := (h.map some).ne_nil hrun
      rw [skipBlank_append_of_ne_nil hs]
      cases hcons : skipBlank s with
      | nil => exact absurd hcons hs
      | cons c more =>
        rw [List.cons_append]
        split
        · simp_all
        · exact (h.map some).run_append ht hrun

/-- The level of nesting that is entered grows with the levels that are left. -/
theorem enter_le {levels levels' level : Nat} (hle : levels ≤ levels') (h : enter levels = .ok level) :
    ∃ level', enter levels' = .ok level' ∧ level ≤ level' := by
  cases levels with
  | zero => cases h
  | succ n =>
    cases h
    cases levels' with
    | zero => omega
    | succ n' => exact ⟨n', rfl, Nat.le_of_succ_le_succ hle⟩

namespace Codec

/-- Texts grow: they have no levels, and their token does not change. -/
theorem grows_text : text.Grows := fun _ _ _ => Reader.scalar_extends _ _

theorem grows_uint64 : uint64.Grows := fun _ _ _ => Reader.scalar_extends _ _

theorem grows_uint32 : uint32.Grows := fun _ _ _ => Reader.scalar_extends _ _

theorem grows_int64 : int64.Grows := fun _ _ _ => Reader.scalar_extends _ _

/-- Any value grows, level by level. -/
theorem grows_json : json.Grows := fun _ _ => reader_extends

/-- The same texts for another type grow with the codec they come from. -/
theorem Grows.map {codec : Codec α} (h : codec.Grows) (f : α → β) (g : β → α) :
    (codec.map f g).Grows := fun _ _ hle => (h _ _ hle).map f

/-- Optional values grow with the values. -/
theorem Grows.optional {codec : Codec α} (h : codec.Grows) : codec.optional.Grows :=
  fun _ _ hle => (h _ _ hle).optional

/-- Lists grow with their items. -/
theorem Grows.list {codec : Codec α} (h : codec.Grows) : codec.list.Grows := by
  intro levels levels' hle
  simp only [Codec.list, Reader.list]
  refine Reader.extends_ofToken fun {token s a rest t} ht hread => ?_
  cases token with
  | openList =>
    dsimp only at hread ⊢
    split at hread
    · cases hread
    · rename_i henter
      obtain ⟨level', henter', hlevel⟩ := enter_le hle henter
      simp only [henter', readItems_append (h _ _ hlevel) ht hread]
  | null | boolean | number | text | openObject => cases hread

end Codec

section

variable {choices : List (String × α)} {a : α} {s t rest : List Char}

/-- The name of a choice is read the same in front of more text. -/
theorem readName_append (h : readName choices s = .ok (a, rest)) :
    readName choices (s ++ t) = .ok (a, rest ++ t) := by
  unfold readName at h
  split at h
  · cases h
  · rename_i hchars
    split at h
    · cases h
    · rename_i hchosen
      cases h
      simp only [readName, Literal.readChars_append hchars, hchosen]

/-- The name of a choice as a key is read the same in front of more text. -/
theorem readOnlyKey_append (h : readOnlyKey choices s = .ok (a, rest)) :
    readOnlyKey choices (s ++ t) = .ok (a, rest ++ t) := by
  unfold readOnlyKey at h
  split at h
  · cases h
  · cases h
  · rename_i hnext
    simp only [readOnlyKey, nextKey_append hnext, Progress.append, readName_append h]

/-- The null behind the name of a choice is read the same in front of more text. -/
theorem readUnit_append (ht : Stops t) (h : readUnit s = .ok rest) :
    readUnit (s ++ t) = .ok (rest ++ t) := by
  unfold readUnit at h
  split at h
  · cases h
  · rename_i hcolon
    split at h
    · cases h
    · rename_i htoken
      cases h
      simp only [readUnit, readColon_append hcolon, readToken_append ht htoken]
    · cases h

/-- The end of an object with one member is read the same in front of more text. -/
theorem readClosing_append (h : readClosing s = .ok rest) :
    readClosing (s ++ t) = .ok (rest ++ t) := by
  unfold readClosing at h
  split at h
  · cases h
  · rename_i hs
    cases h
    have hskip := skipBlank_append_of_ne_nil (t := t) (hs ▸ List.cons_ne_nil _ _)
    simp only [readClosing, hskip, hs, List.cons_append]
  · cases h

/-- A choice is read the same in front of more text, as a name and as an object. -/
theorem readChoice_append {levels levels' : Nat} (hle : levels ≤ levels') (ht : Stops t)
    (h : readChoice choices levels s = .ok (a, rest)) :
    readChoice choices levels' (s ++ t) = .ok (a, rest ++ t) := by
  unfold readChoice at h
  split at h
  · cases h
  · rename_i hs
    have hskip := skipBlank_append_of_ne_nil (t := t) (hs ▸ List.cons_ne_nil _ _)
    simp only [readChoice, hskip, hs, List.cons_append, readName_append h]
  · rename_i hs
    have hskip := skipBlank_append_of_ne_nil (t := t) (hs ▸ List.cons_ne_nil _ _)
    split at h
    · cases h
    · rename_i henter
      obtain ⟨level', henter', -⟩ := enter_le hle henter
      split at h
      · cases h
      · rename_i hkey
        split at h
        · cases h
        · rename_i hunit
          split at h
          · cases h
          · rename_i hclosing
            cases h
            simp only [readChoice, hskip, hs, List.cons_append, henter', readOnlyKey_append hkey,
              readUnit_append ht hunit, readClosing_append hclosing]
  · cases h

end

/-- Choices grow. -/
theorem Codec.grows_choice (choices : List (String × α)) (name : α → String) :
    (choice choices name).Grows := by
  intro levels levels' hle
  refine ⟨fun {s a rest} hread hnil => ?_, readChoice_append hle⟩
  simp only [choice, readChoice, hnil] at hread
  cases hread

/-! ## Records -/

/-- The same for a field of a record. -/
def Slot.Grows (slot : Slot α) : Prop :=
  ∀ levels levels', levels ≤ levels' → (slot.read levels).Extends (slot.read levels')

/-- A field grows with its codec. -/
theorem Slot.grows_field {name : String} {codec : Codec β} {get : α → β} {set : β → α → α}
    (h : codec.Grows) : (Slot.field name codec get set).Grows := fun _ _ hle => (h _ _ hle).map set

theorem Slot.Grows.needed {slot : Slot α} (h : slot.Grows) : slot.needed.Grows := h

section

variable {record : Record α} {levels levels' : Nat} {a : α} {s t rest : List Char}

/-- The values of an object's keys are read the same in front of more text, known keys and others.
-/
theorem entry_extends (h : ∀ slot ∈ record.slots, slot.Grows) (hle : levels ≤ levels') :
    EntryExtends (record.entry levels) (record.entry levels') := by
  intro key draft reader hentry
  unfold Record.entry at hentry ⊢
  split at hentry
  · cases hentry
    exact ⟨_, rfl, skipper_extends.map _⟩
  · rename_i hfind
    split at hentry
    · cases hentry
    · rename_i hgiven
      cases hentry
      exact ⟨_, if_neg hgiven, (h _ (List.mem_of_find?_eq_some hfind) _ _ hle).map _⟩

/-- The end of a list is read the same in front of more text. -/
theorem readListEnd_append (h : readListEnd s = .ok rest) :
    readListEnd (s ++ t) = .ok (rest ++ t) := by
  unfold readListEnd at h
  split at h
  · cases h
  · rename_i hs
    cases h
    have hskip := skipBlank_append_of_ne_nil (t := t) (hs ▸ List.cons_ne_nil _ _)
    simp only [readListEnd, hskip, hs, List.cons_append]
  · split at h <;> cases h
  · cases h

/-- The fields of a record are read from a list the same in front of more text. -/
theorem readFields_append {slots : List (Slot α)} (h : ∀ slot ∈ slots, slot.Grows)
    (hle : levels ≤ levels') (ht : Stops t) {index : Nat} {value : α}
    (hread : record.readFields levels slots index value s = .ok (a, rest)) :
    record.readFields levels' slots index value (s ++ t) = .ok (a, rest ++ t) := by
  induction slots generalizing index value s with
  | nil =>
    unfold Record.readFields at hread
    split at hread
    · cases hread
    · rename_i hend
      cases hread
      simp only [Record.readFields, readListEnd_append hend]
  | cons slot later ih =>
    obtain ⟨hslot, hlater⟩ := List.forall_mem_cons.mp h
    unfold Record.readFields at hread
    split at hread
    · cases hread
    · rename_i hnext
      split at hread
      · cases hread
      · rename_i hrequired
        cases hread
        simp only [Record.readFields, nextItem_append hnext, Progress.append, hrequired]
    · rename_i hnext
      split at hread
      · cases hread
      · rename_i hset
        simp only [Record.readFields, nextItem_append hnext, Progress.append,
          (hslot _ _ hle).run_append ht hset, ih hlater hread]

/-- A record is read from an object the same in front of more text. -/
theorem readObject_append (h : ∀ slot ∈ record.slots, slot.Grows) (hle : levels ≤ levels')
    (ht : Stops t) (hread : record.readObject levels s = .ok (a, rest)) :
    record.readObject levels' (s ++ t) = .ok (a, rest ++ t) := by
  unfold Record.readObject at hread
  split at hread
  · cases hread
  · rename_i hmembers
    split at hread
    · cases hread
    · rename_i hfinish
      cases hread
      simp only [Record.readObject, readMembers_append (entry_extends h hle) ht hmembers, hfinish]

/-- A record reads the same with more levels left, if each of its fields does. -/
theorem grows_record (h : ∀ slot ∈ record.slots, slot.Grows) : (Codec.record record).Grows := by
  intro levels levels' hle
  simp only [Codec.record]
  refine Reader.extends_ofToken fun {token s a rest t} ht hread => ?_
  cases token with
  | openObject =>
    simp only [Record.readAfter] at hread ⊢
    split at hread
    · cases hread
    · rename_i henter
      obtain ⟨level', henter', hlevel⟩ := enter_le hle henter
      simp only [henter', readObject_append h hlevel ht hread]
  | openList =>
    simp only [Record.readAfter] at hread ⊢
    split at hread
    · cases hread
    · rename_i henter
      obtain ⟨level', henter', hlevel⟩ := enter_le hle henter
      simp only [henter', readFields_append h hlevel ht hread]
  | null | boolean | number | text => cases hread

end

/-! ## Values inside a text -/

/-- What a reader takes off a text that begins with `part`, if it takes anything, is a given value
and the whole of `part` but for white space. -/
def Reader.Settles (reader : Reader α) (part : List Char) (a : α) : Prop :=
  ∀ rest b r, Stops rest → reader.run (part ++ rest) = .ok (b, r) →
    b = a ∧ ∃ blanks, skipBlank blanks = [] ∧ r = blanks ++ rest

/-- A changed value settles where the value itself does. -/
theorem Reader.Settles.map {reader : Reader α} {part : List Char} {a : α}
    (h : reader.Settles part a) (f : α → β) : (reader.map f).Settles part (f a) := by
  intro rest b r hrest hread
  simp only [Reader.map] at hread
  split at hread
  · cases hread
  · rename_i hinner
    cases hread
    obtain ⟨rfl, hblanks⟩ := h _ _ _ hrest hinner
    exact ⟨rfl, hblanks⟩

/-- White space in front of a text is left out with the text's own. -/
theorem skipBlank_blank_append {blanks : List Char} (h : skipBlank blanks = []) (s : List Char) :
    skipBlank (blanks ++ s) = skipBlank s := by
  rw [skipBlank, List.dropWhile_eq_nil_iff] at h
  exact skipBlank_append h s

/-- White space in front of a value makes no difference to a reader. -/
def Reader.SkipsBlanks (reader : Reader α) : Prop :=
  ∀ blanks s, skipBlank blanks = [] → reader.run (blanks ++ s) = reader.run s

/-- A changed value is read without seeing white space where the value itself is. -/
theorem Reader.SkipsBlanks.map {reader : Reader α} (h : reader.SkipsBlanks) (f : α → β) :
    (reader.map f).SkipsBlanks := by
  intro blanks s hblank
  simp only [Reader.map, h blanks s hblank]

/-- Null or a value is read without seeing white space in front of it, if the value is. -/
theorem Reader.SkipsBlanks.optional {value : Reader α} (h : value.SkipsBlanks) :
    value.optional.SkipsBlanks := by
  intro blanks s hblank
  simp only [Reader.optional, skipBlank_blank_append hblank, h.map some blanks s hblank]

end FacetedSearch.Json
