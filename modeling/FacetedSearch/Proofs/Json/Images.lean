import FacetedSearch.Json.Codec
import FacetedSearch.Proofs.Json.Layout

/-!
# Codecs that keep less of the same texts

Two codecs can read the same texts and keep different things of them. `Codec.Image f` says that what
one codec reads is in every text `f` of what the other one reads, faults included. Images are
carried through lists and options, and through records: a record is the image of another if its
fields stand under the same names and each of them changes the image as its counterpart changes the
value (`Codec.Image.record`).
-/

namespace FacetedSearch.Json

variable {α β γ σ τ : Type} {levels : Nat}

/-! ## Readers -/

namespace Reader

/-- Readers that take the same off every text are equal. -/
@[ext]
theorem ext {reader other : Reader α} (h : ∀ s, reader.run s = other.run s) : reader = other := by
  cases reader
  cases other
  congr
  exact funext h

/-- A changed value is read off the text that the value is read off. -/
theorem run_map (f : α → β) (reader : Reader α) (s : List Char) :
    (reader.map f).run s = (reader.run s).map fun read => (f read.1, read.2) := by
  simp only [map]
  cases reader.run s <;> rfl

/-- Two changes one after the other are one change. -/
theorem map_map (f : α → β) (g : β → γ) (reader : Reader α) :
    (reader.map f).map g = reader.map fun a => g (f a) := by
  ext1 s
  simp only [run_map]
  cases reader.run s <;> rfl

theorem map_id (reader : Reader α) : (reader.map fun a => a) = reader := by
  ext1 s
  rw [run_map]
  cases reader.run s <;> rfl

end Reader

/-! ## Lists and objects -/

/-- A list of changed items is the list of the items, each changed. -/
theorem readItems_map (f : α → β) (item : Reader α) (first : Bool) (s : List Char) :
    readItems (item.map f) first s =
      (readItems item first s).map fun read => (read.1.map f, read.2) := by
  fun_induction readItems item first s with
  | case1 first s cause hnext => simp only [readItems_eq, hnext]; rfl
  | case2 first s rest hnext => simp only [readItems_eq, hnext]; rfl
  | case3 first s s' hnext fault hitem =>
    rw [readItems_eq]
    simp only [hnext, Reader.run_map, hitem]
    rfl
  | case4 first s s' hnext a s'' hitem fault hread ih =>
    rw [readItems_eq]
    simp only [hnext, Reader.run_map, hitem, Except.map, ih, hread]
  | case5 first s s' hnext a s'' hitem items rest hread ih =>
    rw [readItems_eq]
    simp only [hnext, Reader.run_map, hitem, Except.map, ih, hread]
    rfl

/-- A list whose items are read changed is the changed list, at every level. -/
theorem Reader.list_map (f : α → β) (item : Nat → Reader α) :
    Reader.list levels (fun level => (item level).map f) =
      (Reader.list levels item).map (List.map f) := by
  ext1 s
  rw [run_map]
  simp only [list, ofToken]
  cases readToken s with
  | error fault => rfl
  | ok read =>
    obtain ⟨token, rest⟩ := read
    cases token with
    | openList =>
      dsimp only
      cases enter levels with
      | error fault => rfl
      | ok level => exact readItems_map f (item level) true rest
    | null | boolean | number | text | openObject => rfl

section

variable {f : τ → σ} {entry : String → σ → Except Fault (Reader σ)}
  {other : String → τ → Except Fault (Reader τ)}

/-- The reader of a value is chosen by the image of what has been read, and reads the image of what
its counterpart reads. -/
def EntryImage (f : τ → σ) (entry : String → σ → Except Fault (Reader σ))
    (other : String → τ → Except Fault (Reader τ)) : Prop :=
  ∀ key state, entry key (f state) = (other key state).map (Reader.map f)

/-- One member leads from states that correspond to states that correspond. -/
theorem readMember_image (h : EntryImage f entry other) (state : τ) (s : List Char) :
    readMember entry (f state) s =
      (readMember other state s).map fun read => (f read.1, read.2) := by
  simp only [readMember]
  cases Literal.readChars s with
  | error cause => rfl
  | ok read =>
    simp only [h _ state]
    cases other (String.ofList read.1) state with
    | error fault => rfl
    | ok value =>
      simp only [Except.map]
      cases readColon read.2 with
      | error cause => rfl
      | ok rest => exact value.run_map f rest

/-- The members up to the closing brace do so too, by the loop's own recursion. -/
theorem readMembers_image (h : EntryImage f entry other) (first : Bool) (state : τ)
    (s : List Char) :
    readMembers entry first (f state) s =
      (readMembers other first state s).map fun read => (f read.1, read.2) := by
  fun_induction readMembers other first state s with
  | case1 first state s cause hnext => simp only [readMembers_eq, hnext]; rfl
  | case2 first state s rest hnext => simp only [readMembers_eq, hnext]; rfl
  | case3 first state s s' hnext fault hmember =>
    rw [readMembers_eq]
    simp only [hnext, readMember_image h, hmember]
    rfl
  | case4 first state s s' hnext state' s'' hmember ih =>
    rw [readMembers_eq]
    simp only [hnext, readMember_image h, hmember, ← ih]
    rfl

end

/-! ## Records -/

/-- A field of the same name that changes the image as its counterpart changes the value. -/
structure Slot.Image (f : β → α) (slot : Slot α) (other : Slot β) : Prop where
  name : slot.name = other.name
  required : slot.required = other.required
  read : ∀ levels b, ((slot.read levels).map fun set => set (f b)) =
    (other.read levels).map fun set => f (set b)

/-- A record of the same name whose blank value is the image, and whose fields are. -/
structure Record.Image (f : β → α) (record : Record α) (other : Record β) : Prop where
  name : record.name = other.name
  blank : record.blank = f other.blank
  slots : List.Forall₂ (Slot.Image f) record.slots other.slots

/-- A search in two related lists finds related elements, or nothing in both. -/
theorem find?_forall₂ {R : α → β → Prop} {p : α → Bool} {q : β → Bool} {as : List α} {bs : List β}
    (h : List.Forall₂ R as bs) (hpq : ∀ a b, R a b → p a = q b) :
    Option.Rel R (as.find? p) (bs.find? q) := by
  induction h with
  | nil => exact .none
  | @cons a b as bs hab _ ih =>
    rw [List.find?_cons, List.find?_cons, hpq a b hab]
    cases q b with
    | false => exact ih
    | true => exact .some hab

/-- A search in two related lists finds the same index. -/
theorem findIdx?_forall₂ {R : α → β → Prop} {p : α → Bool} {q : β → Bool} {as : List α}
    {bs : List β} (h : List.Forall₂ R as bs) (hpq : ∀ a b, R a b → p a = q b) :
    as.findIdx? p = bs.findIdx? q := by
  induction h with
  | nil => rfl
  | @cons a b as bs hab _ ih => rw [List.findIdx?_cons, List.findIdx?_cons, hpq a b hab, ih]

namespace Record.Image

variable {f : β → α} {record : Record α} {other : Record β} (h : record.Image f other)

/-- The draft of the image, with the same fields given. -/
def draft (f : β → α) (draft : Draft β) : Draft α := ⟨f draft.value, draft.given⟩

include h

/-- Corresponding drafts ask for the same field under every key. -/
theorem entry (levels : Nat) :
    EntryImage (draft f) (record.entry levels) (other.entry levels) := by
  intro key state
  have hfind := find?_forall₂ h.slots (p := (·.name == key)) (q := (·.name == key))
    fun slot slot' hslot => by rw [hslot.name]
  simp only [Record.entry]
  generalize record.slots.find? _ = found, other.slots.find? _ = found' at hfind ⊢
  cases hfind with
  | none => exact congrArg Except.ok (Reader.map_map _ _ _).symm
  | @some slot slot' hslot =>
    dsimp only [draft]
    by_cases hgiven : state.given.contains key = true
    · simp only [hgiven, if_true, Except.map]
    · have hread := congrArg (Reader.map (Draft.mk · (key :: state.given)))
        (hslot.read levels state.value)
      simp only [Reader.map_map] at hread
      simp only [hgiven, Bool.false_eq_true, if_false, Except.map, Reader.map_map, hread, draft]

/-- Corresponding drafts lack the same required fields and are finished to corresponding records. -/
theorem finish (state : Draft β) : record.finish (draft f state) = (other.finish state).map f := by
  have hfind := find?_forall₂ h.slots
    (p := fun slot => slot.required && !state.given.contains slot.name)
    (q := fun slot => slot.required && !state.given.contains slot.name)
    fun slot slot' hslot => by rw [hslot.required, hslot.name]
  simp only [Record.finish, draft]
  generalize record.slots.find? _ = found, other.slots.find? _ = found' at hfind ⊢
  cases hfind with
  | none => rfl
  | some hslot => simp only [hslot.name]; rfl

/-- A record and its image are read from the same objects, with the same refusals. -/
theorem readObject (levels : Nat) (s : List Char) :
    record.readObject levels s =
      (other.readObject levels s).map fun read => (f read.1, read.2) := by
  have hread : readMembers (record.entry levels) true ⟨f other.blank, []⟩ s =
      (readMembers (other.entry levels) true ⟨other.blank, []⟩ s).map
        fun read => (draft f read.1, read.2) :=
    readMembers_image (h.entry levels) true ⟨other.blank, []⟩ s
  simp only [Record.readObject, h.blank, hread]
  cases readMembers (other.entry levels) true ⟨other.blank, []⟩ s with
  | error fault => rfl
  | ok read =>
    simp only [Except.map, h.finish]
    cases other.finish read.1 <;> rfl

/-- A record and its image are read from the same lists, from any field on. -/
theorem readFields {slots : List (Slot α)} {others : List (Slot β)}
    (hslots : List.Forall₂ (Slot.Image f) slots others) (levels index : Nat) (b : β)
    (s : List Char) :
    record.readFields levels slots index (f b) s =
      (other.readFields levels others index b s).map fun read => (f read.1, read.2) := by
  induction hslots generalizing index b s with
  | nil =>
    simp only [Record.readFields]
    cases readListEnd s <;> rfl
  | @cons slot slot' slots others hslot hlater ih =>
    simp only [Record.readFields]
    cases nextItem (index == 0) s with
    | error cause => rfl
    | ok progress =>
      cases progress with
      | done rest =>
        have hrequired := findIdx?_forall₂ (.cons hslot hlater) (p := (·.required))
          (q := (·.required)) fun slot slot' hslot => hslot.required
        dsimp only
        rw [hrequired, h.name, h.slots.length_eq]
        cases (slot' :: others).findIdx? (·.required) <;> rfl
      | more s' =>
        -- The two fields read alike, once each change is applied to its own value.
        have hset := congrArg (·.run s') (hslot.read levels b)
        simp only [Reader.run_map] at hset
        dsimp only
        generalize (slot.read levels).run s' = read, (slot'.read levels).run s' = read' at hset ⊢
        cases read with
        | error fault =>
          cases read' with
          | error fault' => cases hset; rfl
          | ok read' => cases hset
        | ok read =>
          cases read' with
          | error fault' => cases hset
          | ok read' =>
            simp only [Except.map, Except.ok.injEq, Prod.mk.injEq] at hset
            dsimp only
            rw [hset.1, hset.2]
            exact ih _ _ _

/-- What follows the token of a record is read alike for a record and its image. -/
theorem readAfter (levels : Nat) (token : Token) (s : List Char) :
    record.readAfter levels token s =
      (other.readAfter levels token s).map fun read => (f read.1, read.2) := by
  cases token with
  | openObject =>
    simp only [Record.readAfter]
    cases enter levels with
    | error fault => rfl
    | ok level => exact h.readObject level s
  | openList =>
    simp only [Record.readAfter, h.blank]
    cases enter levels with
    | error fault => rfl
    | ok level => exact h.readFields h.slots level 0 other.blank s
  | null | boolean | number | text => simp only [Record.readAfter, h.name]; rfl

end Record.Image

/-! ## Codecs -/

/-- What a codec reads is the image of what another one reads, in every text. -/
def Codec.Image (f : β → α) (codec : Codec α) (other : Codec β) : Prop :=
  ∀ levels, codec.read levels = (other.read levels).map f

/-- A field whose value is read as the image. -/
theorem Slot.Image.field {f : β → α} {g : τ → σ} {codec : Codec σ} {other : Codec τ}
    (h : codec.Image g other) {name : String} {get : α → σ} {set : σ → α → α} {get' : β → τ}
    {set' : τ → β → β} (hset : ∀ x b, set (g x) (f b) = f (set' x b)) :
    (Slot.field name codec get set).Image f (Slot.field name other get' set') where
  name := rfl
  required := rfl
  read levels b := by simp only [Slot.field, h levels, Reader.map_map, hset]

/-- Two corresponding fields correspond as required ones too. -/
theorem Slot.Image.needed {f : β → α} {slot : Slot α} {other : Slot β} (h : slot.Image f other) :
    slot.needed.Image f other.needed := { h with required := rfl }

namespace Codec.Image

variable {f : β → α} {codec : Codec α} {other : Codec β}

/-- Every codec is its own image under the identity. -/
protected theorem refl (codec : Codec α) : codec.Image (fun a => a) codec :=
  fun levels => (Reader.map_id (codec.read levels)).symm

/-- Lists of images are images of lists. -/
theorem list (h : codec.Image f other) : codec.list.Image (List.map f) other.list := by
  intro levels
  have hread : codec.read = fun level => (other.read level).map f := funext h
  simp only [Codec.list, hread, Reader.list_map]

/-- Records whose fields correspond give codecs that correspond. -/
theorem record {record : Record α} {other : Record β} (h : record.Image f other) :
    (Codec.record record).Image f (Codec.record other) := by
  intro levels
  ext1 s
  simp only [Codec.record, Reader.run_map, Reader.ofToken]
  cases readToken s with
  | error fault => rfl
  | ok read => exact h.readAfter levels read.1 read.2

/-- A text decodes to the image of what it decodes to otherwise, or is refused with the same fault.
-/
theorem decode (h : codec.Image f other) (s : String) :
    codec.decode s = (other.decode s).map f := by
  simp only [Codec.decode, h levelLimit, Reader.run_map]
  cases (other.read levelLimit).run s.toList with
  | error fault => rfl
  | ok read =>
    simp only [Except.map]
    split <;> rfl

end Codec.Image

end FacetedSearch.Json
