import FacetedSearch.Json.Codec
import FacetedSearch.Proofs.Json.Values

/-!
# Typed values are read back from their texts

`Codec.Restores` says of one value that its codec reads it back from what it writes. Each way to
make a codec restores a value whose parts are restored. For a record the fields have to have
distinct names, and the changes that they make to the blank record have to make up the value
(`restores_record`).

The converse direction, what a record that was read can hold, is `gives_record`.
-/

namespace FacetedSearch.Json

open Numeral (Stops)

/-- Reads a value back from the text that it writes for it. -/
def Codec.Restores (codec : Codec α) (levels : Nat) (a : α) : Prop :=
  (codec.read levels).Reads (codec.write a).chars a

/-! ## Scalars -/

/-- A typed scalar is read from the text of an exact scalar whose token fits. -/
theorem reads_of_scalar {expected : String} {fit? : Token → Option (Except Mismatch α)} {json : Json}
    {token : Token} {a : α} (hjson : json.scalarToken? = some token) (hexact : json.isExact = true)
    (hfit : fit? token = some (.ok a)) : (Reader.scalar expected fit?).Reads json.chars a := by
  refine Reader.ofToken_reads (visible_chars json) fun rest hrest =>
    ⟨token, rest, headToken_scalar hjson hexact hrest, ?_⟩
  simp only [hfit]

/-- Nothing else than null begins like it. -/
theorem eq_null_of_chars_eq_cons {json : Json} {rest : List Char} (h : json.chars = 'n' :: rest) :
    json = .null := by
  cases json with
  | null => rfl
  | boolean value => cases value <;> exact absurd (congrArg List.head? h) (by simp [chars, booleanText])
  | number value =>
    have hn : 'n' ∈ value.chars := by
      rw [chars] at h
      exact h ▸ List.mem_cons_self
    exact absurd (Number.isChar_of_mem_chars hn) (by decide)
  | text value => exact absurd (congrArg List.head? h) (by simp [chars, Literal.write])
  | list items => exact absurd (congrArg List.head? h) (by simp [chars])
  | object members => exact absurd (congrArg List.head? h) (by simp [chars])

namespace Codec

variable (levels : Nat)

/-- Every text is restored. -/
theorem restores_text (value : String) : text.Restores levels value :=
  reads_of_scalar rfl rfl rfl

/-- A whole number is read back if it is in the bounds of its type. -/
theorem reads_wholeBetween {expected : String} {least bound : Int} {make : Int → α} {a : α}
    (n : Whole) (hleast : least ≤ n.val) (hbound : n.val < bound) (hmake : make n.val = a) :
    (Reader.wholeBetween expected least bound make).Reads (Json.number (.whole n)).chars a :=
  reads_of_scalar rfl rfl (by simp only [hleast, hbound, and_self, if_true, hmake])

/-- Every unsigned number of 64 bits is restored. -/
theorem restores_uint64 (n : UInt64) : uint64.Restores levels n := by
  show (Reader.wholeBetween "u64" 0 0x10000000000000000 fun k => UInt64.ofNat k.toNat).Reads _ n
  refine reads_wholeBetween (.ofUInt64 n) ?_ (Whole.ofUInt64 n).lt_bound ?_
  · exact Int.natCast_nonneg _
  · simp [Whole.ofUInt64]

theorem restores_uint32 (n : UInt32) : uint32.Restores levels n := by
  have hbound : (Whole.ofUInt32 n).val < 0x100000000 := by
    have := n.toNat_lt
    simp only [Whole.ofUInt32]
    omega
  show (Reader.wholeBetween "u32" 0 0x100000000 fun k => UInt32.ofNat k.toNat).Reads _ n
  refine reads_wholeBetween (.ofUInt32 n) ?_ hbound ?_
  · exact Int.natCast_nonneg _
  · simp [Whole.ofUInt32]

/-- Every signed number of 64 bits is restored. -/
theorem restores_int64 (n : Int64) : int64.Restores levels n :=
  reads_wholeBetween (.ofInt64 n) n.le_toInt n.toInt_lt (by simp [Whole.ofInt64])

/-- A value without binary numbers is restored if it is not nested too deeply. -/
theorem restores_json {levels : Nat} {value : Json} (hnested : value.Nested levels)
    (hexact : value.isExact = true) : json.Restores levels value := reads_chars hnested hexact

/-! ## Options, lists and choices -/

/-- An optional value is restored if the value is and is not itself written as null. -/
theorem restores_optional {codec : Codec α} {levels : Nat} {a : Option α}
    (h : ∀ x ∈ a, codec.Restores levels x ∧ codec.write x ≠ .null) :
    codec.optional.Restores levels a := by
  intro rest hrest
  cases a with
  | none => rfl
  | some x =>
    obtain ⟨hx, hnull⟩ := h x rfl
    have hvisible := (visible_chars (codec.write x)).append rest
    have hread : ((codec.read levels).map some).run ((codec.write x).chars ++ rest) =
      .ok (some x, rest) := hx.map some rest hrest
    simp only [optional, Reader.optional, Json.ofOption, hvisible.skipBlank_eq]
    split
    · rename_i hcons
      obtain ⟨c, more, hchars, -⟩ := visible_chars (codec.write x)
      obtain rfl : c = 'n' := by
        rw [hchars, List.cons_append, List.cons.injEq] at hcons
        exact hcons.1
      exact absurd (eq_null_of_chars_eq_cons hchars) hnull
    · exact hread

/-- A value of another type is restored if the one that is written for it is. -/
theorem restores_map {codec : Codec α} {f : α → β} {g : β → α} {levels : Nat} {b : β}
    (h : codec.Restores levels (g b)) (hfg : f (g b) = b) : (codec.map f g).Restores levels b := by
  have := h.map f
  rwa [hfg] at this

/-- A list is restored if its items are, with one level more. -/
theorem restores_list {codec : Codec α} {level : Nat} {items : List α}
    (h : ∀ item ∈ items, codec.Restores level item) : codec.list.Restores (level + 1) items := by
  have hparts : List.Forall₂ (fun part item => Visible part ∧ (codec.read level).Reads part item)
      (items.map fun item => (codec.write item).chars) items := by
    rw [List.forall₂_map_left_iff, List.forall₂_same]
    exact fun item hitem => ⟨visible_chars _, h item hitem⟩
  simp only [Restores, list, Reader.list, chars, itemChars_eq, List.map_map]
  exact Reader.ofToken_reads (visible_cons (by decide) _) fun rest _ =>
    ⟨.openList, _, rfl, readItems_layout .compact hparts true rest⟩

/-- A choice is restored if its name stands for it. -/
theorem restores_choice {choices : List (String × α)} {name : α → String} (levels : Nat) {a : α}
    (h : choices.lookup (name a) = some a) : (choice choices name).Restores levels a := by
  intro rest _
  have htext : (Json.text (name a)).chars ++ rest =
      '"' :: ((name a).toList.flatMap Literal.writeChar ++ '"' :: rest) := by
    simp [chars, Literal.write]
  simp only [choice, htext, readChoice, skipBlank_cons (c := '"') (by decide), readName,
    Literal.readChars_write_append, String.ofList_toList, chosen, h]

/-- An optional text is restored, since no text is written as null. -/
theorem restores_optional_text (levels : Nat) (value : Option String) :
    text.optional.Restores levels value :=
  restores_optional fun x _ => ⟨restores_text levels x, nofun⟩

/-! ## Whole texts -/

/-- Behind the value that a whole text denotes there is only white space. -/
theorem run_of_decode {codec : Codec α} {s : String} {a : α} (h : codec.decode s = .ok a) :
    ∃ rest, (codec.read levelLimit).run s.toList = .ok (a, rest) ∧ skipBlank rest = [] := by
  unfold decode at h
  split at h
  · cases h
  · split at h
    · cases h
      exact ⟨_, ‹_›, ‹_›⟩
    · cases h

/-- A text that is read, with white space behind it, is decoded as a whole. -/
theorem decode_of_reads {codec : Codec α} {s : String} {text blanks : List Char} {a : α}
    (h : (codec.read levelLimit).Reads text a) (hs : s.toList = text ++ blanks)
    (hstops : Stops blanks) (hblank : skipBlank blanks = []) : codec.decode s = .ok a := by
  simp only [decode, hs, h blanks hstops, hblank]

/-- A value that is restored decodes from its compact text. -/
theorem decode_compact {codec : Codec α} {a : α} (h : codec.Restores levelLimit a) :
    codec.decode (codec.write a).compact = .ok a :=
  decode_of_reads h (by simp [compact]) Numeral.stops_nil rfl

end Codec

/-! ## Records -/

/-- Reads a field of a value back, as the change that sets it. -/
def Slot.Restores (slot : Slot α) (level : Nat) (a : α) (set : α → α) : Prop :=
  (slot.read level).Reads (slot.write a).chars set

/-- A field is restored if the value that is taken from the record is. -/
theorem Slot.restores_field {name : String} {codec : Codec β} {get : α → β} {set : β → α → α}
    {level : Nat} {a : α} (h : codec.Restores level (get a)) :
    (Slot.field name codec get set).Restores level a (set (get a)) := h.map set

@[simp]
theorem Slot.read_needed (slot : Slot α) : slot.needed.read = slot.read := rfl

theorem Slot.Restores.needed {slot : Slot α} {level : Nat} {a : α} {set : α → α}
    (h : slot.Restores level a set) : slot.needed.Restores level a set := h

section

variable {record : Record α} {level : Nat} {a : α}

/-- With distinct names, a search by the name of a field finds that field. -/
theorem find?_slot {slots : List (Slot α)} (h : (slots.map Slot.name).Nodup) {slot : Slot α}
    (hslot : slot ∈ slots) : slots.find? (·.name == slot.name) = some slot := by
  induction slots with
  | nil => cases hslot
  | cons first later ih =>
    rw [List.map_cons, List.nodup_cons] at h
    rcases List.mem_cons.mp hslot with rfl | hslot
    · simp
    · have hne : first.name ≠ slot.name := fun heq =>
        h.1 (heq ▸ List.mem_map_of_mem hslot)
      rw [List.find?_cons_of_neg (by simpa using hne), ih h.2 hslot]

/-- The fields of a record are given one after the other. -/
theorem takes_entry (hnames : (record.slots.map Slot.name).Nodup) {slots : List (Slot α)}
    {sets : List (α → α)}
    (hslots : List.Forall₂ (fun slot set => slot.Restores level a set) slots sets)
    (hmem : ∀ slot ∈ slots, slot ∈ record.slots) (draft : Draft α)
    (hgiven : (draft.given ++ slots.map Slot.name).Nodup) :
    Takes (record.entry level) (slots.map fun slot => (slot.name, (slot.write a).chars)) draft
      ⟨sets.foldl (fun value set => set value) draft.value,
        (slots.map Slot.name).reverse ++ draft.given⟩ := by
  induction hslots generalizing draft with
  | nil => exact .nil draft
  | @cons slot set slots sets hslot _ ih =>
    obtain ⟨hhead, htail⟩ := List.forall_mem_cons.mp hmem
    have hmiddle : ((slot.name :: draft.given) ++ slots.map Slot.name).Nodup :=
      List.perm_middle.nodup_iff.mp hgiven
    have hnew : draft.given.contains slot.name = false := by
      rw [List.cons_append, List.nodup_cons, List.mem_append, not_or] at hmiddle
      simpa using hmiddle.1.1
    have hentry : record.entry level slot.name draft =
        .ok ((slot.read level).map fun set => ⟨set draft.value, slot.name :: draft.given⟩) := by
      simp only [Record.entry, find?_slot hnames hhead, hnew, Bool.false_eq_true, if_false]
    have hrest := ih htail ⟨set draft.value, slot.name :: draft.given⟩ hmiddle
    have hdraft : (slots.map Slot.name).reverse ++ slot.name :: draft.given =
        ((slot :: slots).map Slot.name).reverse ++ draft.given := by simp
    exact .cons hentry (hslot.map _) (hdraft ▸ hrest)

/-- A record whose fields are restored, and make up its value, is restored. -/
theorem restores_record {sets : List (α → α)} (hnames : (record.slots.map Slot.name).Nodup)
    (hslots : List.Forall₂ (fun slot set => slot.Restores level a set) record.slots sets)
    (hsets : sets.foldl (fun value set => set value) record.blank = a) :
    (Codec.record record).Restores (level + 1) a := by
  have htakes := takes_entry hnames hslots (fun _ h => h) ⟨record.blank, []⟩ hnames
  have hfinish : record.finish ⟨a, (record.slots.map Slot.name).reverse⟩ = .ok a := by
    have hnone : (record.slots.find? fun slot => slot.required &&
        !((record.slots.map Slot.name).reverse.contains slot.name)) = none := by
      rw [List.find?_eq_none]
      intro slot hslot
      simpa using fun _ => ⟨slot, hslot, rfl⟩
    simp only [Record.finish, hnone]
  simp only [Codec.Restores, Codec.record, chars, memberChars_eq, List.map_map]
  refine Reader.ofToken_reads (visible_cons (by decide) _) fun rest _ =>
    ⟨.openObject, Layout.compact.members true _ ++ rest, rfl, ?_⟩
  have hread := readMembers_layout .compact htakes true rest
  rw [hsets, List.append_nil] at hread
  simp only [Record.readAfter, enter, Record.readObject, Function.comp_def, hread, hfinish]

end

/-! ## What typed readers give -/

/-- An optional value, if there is one, has the property of the values. -/
theorem Reader.Gives.optional {value : Reader α} {P : α → Prop} (h : value.Gives P) :
    value.optional.Gives fun a => ∀ x ∈ a, P x := by
  intro s a rest hrun
  simp only [Reader.optional] at hrun
  split at hrun
  · split at hrun
    · cases hrun
    · cases hrun
      intro x hx
      cases hx
  · refine h.map (Q := fun a => ∀ x ∈ a, P x) (fun a ha x hx => ?_) _ _ _ hrun
    obtain rfl : a = x := by simpa using hx
    exact ha

/-- Every item of a list has the property of the items. -/
theorem gives_list {codec : Codec α} {level : Nat} {P : α → Prop} (h : (codec.read level).Gives P) :
    (codec.list.read (level + 1)).Gives fun items => ∀ item ∈ items, P item := by
  simp only [Codec.list, Reader.list]
  refine Reader.gives_ofToken fun {token _ _ _} hread => ?_
  cases token with
  | openList => exact forall_mem_of_readItems h hread
  | null | boolean | number | text | openObject => cases hread

/-- A change that preserves a property. -/
def Keeps (P : α → Prop) (set : α → α) : Prop := ∀ a, P a → P (set a)

/-- Whatever a reader gives has the trivial property. -/
theorem Reader.gives_true (reader : Reader α) : reader.Gives fun _ => True :=
  fun _ _ _ _ => trivial

/-- A field keeps a property of records if setting it to what its codec gives does. -/
theorem Slot.gives_field {name : String} {codec : Codec β} {get : α → β} {set : β → α → α}
    {level : Nat} {P : α → Prop} {Q : β → Prop} (h : (codec.read level).Gives Q)
    (hset : ∀ x, Q x → Keeps P (set x)) :
    ((Slot.field name codec get set).read level).Gives (Keeps P) := h.map hset

/-- A field that a property does not depend on. -/
theorem Slot.gives_field_of_keeps {name : String} {codec : Codec β} {get : α → β}
    {set : β → α → α} {level : Nat} {P : α → Prop} (hset : ∀ x, Keeps P (set x)) :
    ((Slot.field name codec get set).read level).Gives (Keeps P) :=
  gives_field (Reader.gives_true _) fun x _ => hset x

section

variable {record : Record α} {level : Nat} {P : α → Prop}

/-- The value under any key keeps the property of the draft, a skipped one included. -/
theorem invariant_entry (hslots : ∀ slot ∈ record.slots, (slot.read level).Gives (Keeps P))
    {key : String} {draft : Draft α} {reader : Reader (Draft α)} (hdraft : P draft.value)
    (hentry : record.entry level key draft = .ok reader) :
    reader.Gives fun draft => P draft.value := by
  unfold Record.entry at hentry
  split at hentry
  · cases hentry
    exact (Reader.gives_true skipper).map fun _ _ => hdraft
  · rename_i slot hfind
    split at hentry
    · cases hentry
    · cases hentry
      exact (hslots slot (List.mem_of_find?_eq_some hfind)).map fun set hset => hset _ hdraft

/-- The fields of a list keep the property, from any field on. -/
theorem invariant_readFields {slots : List (Slot α)}
    (hslots : ∀ slot ∈ slots, (slot.read level).Gives (Keeps P)) {index : Nat} {value a : α}
    {s rest : List Char} (hvalue : P value)
    (hread : record.readFields level slots index value s = .ok (a, rest)) : P a := by
  induction slots generalizing index value s with
  | nil =>
    unfold Record.readFields at hread
    split at hread
    · cases hread
    · cases hread
      exact hvalue
  | cons slot later ih =>
    obtain ⟨hslot, hlater⟩ := List.forall_mem_cons.mp hslots
    unfold Record.readFields at hread
    split at hread
    · cases hread
    · split at hread
      · cases hread
      · cases hread
        exact hvalue
    · split at hread
      · cases hread
      · rename_i hset
        exact ih hlater (hslot _ _ _ hset _ hvalue) hread

/-- What the blank record has and each field preserves holds of every record that is read, from an
object or from a list. -/
theorem gives_record (hblank : P record.blank)
    (hslots : ∀ slot ∈ record.slots, (slot.read level).Gives (Keeps P)) :
    ((Codec.record record).read (level + 1)).Gives P := by
  simp only [Codec.record]
  refine Reader.gives_ofToken fun {token _ _ _} hread => ?_
  cases token with
  | openObject =>
    simp only [Record.readAfter, enter, Record.readObject] at hread
    split at hread
    · cases hread
    · rename_i draft _ hmembers
      have hdraft : P draft.value := invariant_readMembers (I := fun draft => P draft.value)
        (invariant_entry hslots) hblank hmembers
      unfold Record.finish at hread
      split at hread
      · cases hread
      · rename_i hfinish
        split at hfinish
        · cases hfinish
        · cases hfinish
          cases hread
          exact hdraft
  | openList => exact invariant_readFields hslots hblank hread
  | null | boolean | number | text => cases hread

end

end FacetedSearch.Json
