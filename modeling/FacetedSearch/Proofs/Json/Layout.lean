import FacetedSearch.Json.Reader
import FacetedSearch.Json.Printer
import FacetedSearch.Proofs.Json.LiteralText
import FacetedSearch.Proofs.Json.NumberText
import Mathlib.Data.List.Forall2

/-!
# How the parts of a JSON text are laid out

The compact writer and the pretty one differ only in the white space around the parts of lists and
objects. A `Layout` says where it stands; both writers write the parts in a layout (`itemChars_eq`,
`prettyChars_list`, and their likes for members), and the loops of the reader get the parts back
from any layout (`readItems_layout`, `readMembers_layout`), provided that a reader reads each part.
-/

namespace FacetedSearch.Json

open Numeral (Stops)

/-! ## What a text begins with -/

/-- A text that begins with a part of a list: neither with white space nor with the closing bracket.
-/
def Visible (s : List Char) : Prop := ∃ c rest, s = c :: rest ∧ isBlank c = false ∧ c ≠ ']'

/-- More text behind it does not hide the head of a text. -/
theorem Visible.append {s : List Char} (h : Visible s) (t : List Char) : Visible (s ++ t) := by
  obtain ⟨c, rest, rfl, hc⟩ := h
  exact ⟨c, rest ++ t, rfl, hc⟩

/-- A text is visible if its first character is no white space and no closing bracket. -/
theorem visible_cons {c : Char} (h : isBlank c = false ∧ c ≠ ']') (rest : List Char) :
    Visible (c :: rest) := ⟨c, rest, rfl, h⟩

/-- Nothing is left out in front of a character that is no white space. -/
theorem skipBlank_cons {c : Char} (h : isBlank c = false) (rest : List Char) :
    skipBlank (c :: rest) = c :: rest := by
  rw [skipBlank, List.dropWhile_cons_of_neg (by simp [h])]

/-- Nothing is left out in front of a visible text. -/
theorem Visible.skipBlank_eq {s : List Char} (h : Visible s) : skipBlank s = s := by
  obtain ⟨c, rest, rfl, hc, -⟩ := h
  exact skipBlank_cons hc rest

/-- White space in front of a text is left out as a whole. -/
theorem skipBlank_append {blanks : List Char} (h : ∀ c ∈ blanks, isBlank c = true)
    (s : List Char) : skipBlank (blanks ++ s) = skipBlank s := by
  rw [skipBlank, List.dropWhile_append_of_pos h, skipBlank]

/-- No character of a number is white space or a closing bracket. -/
theorem not_isBlank_of_isChar {c : Char} (h : Number.isChar c = true) :
    isBlank c = false ∧ c ≠ ']' := by
  constructor
  · cases hblank : isBlank c with
    | false => rfl
    | true =>
      simp only [isBlank, Bool.or_eq_true, beq_iff_eq] at hblank
      rcases hblank with ((rfl | rfl) | rfl) | rfl <;> exact absurd h (by decide)
  · rintro rfl
    exact absurd h (by decide)

theorem visible_numberChars (number : Number) : Visible number.chars := by
  cases hchars : number.chars with
  | nil => exact absurd hchars number.chars_ne_nil
  | cons c rest =>
    exact visible_cons (not_isBlank_of_isChar
      (Number.isChar_of_mem_chars (hchars ▸ List.mem_cons_self))) rest

theorem visible_booleanText (value : Bool) : Visible (booleanText value).toList := by
  cases value with
  | false => exact visible_cons (c := 'f') (by decide) _
  | true => exact visible_cons (c := 't') (by decide) _

/-- A literal is visible, because it begins with a quote. -/
theorem visible_write (s : String) : Visible (Literal.write s) := visible_cons (by decide) _

/-- A value begins with a visible character. -/
theorem visible_chars (json : Json) : Visible json.chars := by
  cases json with
  | null => exact visible_cons (by decide) _
  | boolean value => exact visible_booleanText value
  | number value => exact visible_numberChars value
  | text value => exact visible_write value
  | list items => exact visible_cons (by decide) _
  | object members => exact visible_cons (by decide) _

/-- The white space in front of each part of a list or an object, and in front of its end. -/
structure Layout where
  gap : List Char
  close : List Char
  isBlank_gap : ∀ c ∈ gap, isBlank c = true
  isBlank_close : ∀ c ∈ close, isBlank c = true

namespace Layout

/-- The parts of a list and its closing bracket. -/
def items (layout : Layout) (first : Bool) : List (List Char) → List Char
  | [] => layout.close ++ [']']
  | part :: rest => comma first ++ layout.gap ++ part ++ layout.items false rest

/-- The members of an object and its closing brace. A part is what follows the colon. -/
def members (layout : Layout) (first : Bool) : List (String × List Char) → List Char
  | [] => layout.close ++ ['\x7d']
  | (key, part) :: rest =>
    comma first ++ layout.gap ++ Literal.write key ++ ':' :: part ++ layout.members false rest

/-- No white space. -/
def compact : Layout := ⟨[], [], nofun, nofun⟩

/-- A line break and the spaces behind it are white space. -/
theorem isBlank_of_mem_newline {level : Nat} {c : Char} (h : c ∈ newline level) :
    isBlank c = true := by
  rw [newline, List.mem_cons] at h
  rcases h with rfl | h
  · rfl
  · rw [List.eq_of_mem_replicate h]
    rfl

/-- Each part on its own line, one level further in. -/
def pretty (level : Nat) : Layout :=
  ⟨newline (level + 1), newline level, fun _ => isBlank_of_mem_newline,
    fun _ => isBlank_of_mem_newline⟩

/-- White space and a bracket do not go on with a numeral. -/
theorem stops_close (layout : Layout) {c : Char} (h : Numeral.goesOn c = false)
    (rest : List Char) : Stops (layout.close ++ c :: rest) := by
  cases hclose : layout.close with
  | nil => exact Numeral.stops_cons h rest
  | cons d more =>
    have hd := layout.isBlank_close d (hclose ▸ List.mem_cons_self)
    simp only [isBlank, Bool.or_eq_true, beq_iff_eq] at hd
    refine Numeral.stops_cons ?_ _
    rcases hd with ((rfl | rfl) | rfl) | rfl <;> decide

/-- What follows an item of a list does not go on with a numeral. -/
theorem stops_items (layout : Layout) (parts : List (List Char)) (rest : List Char) :
    Stops (layout.items false parts ++ rest) := by
  cases parts with
  | nil =>
    rw [items, List.append_assoc]
    exact layout.stops_close (by decide) rest
  | cons part parts => exact Numeral.stops_cons (by decide) _

/-- What follows a member of an object does not go on with a numeral. -/
theorem stops_members (layout : Layout) (parts : List (String × List Char)) (rest : List Char) :
    Stops (layout.members false parts ++ rest) := by
  cases parts with
  | nil =>
    rw [members, List.append_assoc]
    exact layout.stops_close (by decide) rest
  | cons part parts => exact Numeral.stops_cons (by decide) _

end Layout

/-! ## The layouts of the writers -/

/-- The compact text of items is the compact layout of their texts. -/
theorem itemChars_eq (first : Bool) (items : List Json) :
    itemChars first items = Layout.compact.items first (items.map chars) := by
  induction items generalizing first with
  | nil => rfl
  | cons item rest ih =>
    rw [itemChars, ih, List.map_cons, Layout.items, Layout.compact, List.append_nil]

/-- The compact text of members is the compact layout of their texts. -/
theorem memberChars_eq (first : Bool) (members : List (String × Json)) :
    memberChars first members =
      Layout.compact.members first (members.map fun member => (member.1, member.2.chars)) := by
  induction members generalizing first with
  | nil => rfl
  | cons member rest ih =>
    obtain ⟨key, value⟩ := member
    rw [memberChars, ih, List.map_cons, Layout.members, Layout.compact, List.append_nil]
    simp only [List.append_assoc, List.cons_append]

/-- Reads a value from a text, whatever follows that does not go on with a numeral. -/
def Reader.Reads (reader : Reader α) (text : List Char) (a : α) : Prop :=
  ∀ rest, Stops rest → reader.run (text ++ rest) = .ok (a, rest)

/-- A changed value is read from the text that the value is read from. -/
theorem Reader.Reads.map {reader : Reader α} {text : List Char} {a : α} (h : reader.Reads text a)
    (f : α → β) : (reader.map f).Reads text (f a) := by
  intro rest hrest
  simp only [Reader.map, h rest hrest]

variable {item : Reader α} {first : Bool} {s rest : List Char}

/-- The loop over items, with the equations forgotten that its termination needs. -/
theorem readItems_eq (item : Reader α) (first : Bool) (s : List Char) :
    readItems item first s =
      match nextItem first s with
      | .error cause => .error (.malformed cause)
      | .ok (.done rest) => .ok ([], rest)
      | .ok (.more s') =>
        match item.run s' with
        | .error fault => .error fault
        | .ok (a, s'') =>
          match readItems item false s'' with
          | .error fault => .error fault
          | .ok (items, rest) => .ok (a :: items, rest) := by
  rw [readItems]
  cases nextItem first s with
  | error cause => rfl
  | ok progress =>
    cases progress with
    | done rest => rfl
    | more s' =>
      dsimp only
      cases item.run s' <;> rfl

/-- The loop over members, likewise. -/
theorem readMembers_eq (entry : String → σ → Except Fault (Reader σ)) (first : Bool) (state : σ)
    (s : List Char) :
    readMembers entry first state s =
      match nextKey first s with
      | .error cause => .error (.malformed cause)
      | .ok (.done rest) => .ok (state, rest)
      | .ok (.more s') =>
        match readMember entry state s' with
        | .error fault => .error fault
        | .ok (state', s'') => readMembers entry false state' s'' := by
  rw [readMembers]
  cases nextKey first s with
  | error cause => rfl
  | ok progress =>
    cases progress with
    | done rest => rfl
    | more s' =>
      dsimp only
      cases readMember entry state s' <;> rfl

/-- At the closing bracket there are no items left. -/
theorem readItems_of_done (h : nextItem first s = .ok (.done rest)) :
    readItems item first s = .ok ([], rest) := by
  rw [readItems_eq, h]

/-- An item and the items behind it are read as one list. -/
theorem readItems_of_more {a : α} {items : List α} {s' s'' : List Char}
    (hnext : nextItem first s = .ok (.more s')) (hitem : item.run s' = .ok (a, s''))
    (hread : readItems item false s'' = .ok (items, rest)) :
    readItems item first s = .ok (a :: items, rest) := by
  rw [readItems_eq]
  simp only [hnext, hitem, hread]

/-- At the closing brace the state is what has been read. -/
theorem readMembers_of_done {entry : String → σ → Except Fault (Reader σ)} {state : σ}
    (h : nextKey first s = .ok (.done rest)) :
    readMembers entry first state s = .ok (state, rest) := by
  rw [readMembers_eq, h]

/-- Once a member has been read, the members are those behind it, read from the new state. -/
theorem readMembers_of_more {entry : String → σ → Except Fault (Reader σ)} {state state' : σ}
    {s' s'' : List Char} (hnext : nextKey first s = .ok (.more s'))
    (hmember : readMember entry state s' = .ok (state', s'')) :
    readMembers entry first state s = readMembers entry false state' s'' := by
  rw [readMembers_eq]
  simp only [hnext, hmember]

namespace Layout

variable (layout : Layout)

/-- A list in a layout ends at its closing bracket. -/
theorem nextItem_close (first : Bool) (rest : List Char) :
    nextItem first (layout.close ++ ']' :: rest) = .ok (.done rest) := by
  rw [nextItem, skipBlank_append layout.isBlank_close, skipBlank_cons (by decide)]
  rfl

/-- A list in a layout goes on at the next item, behind the comma and the gap. -/
theorem nextItem_gap (first : Bool) {s : List Char} (h : Visible s) :
    nextItem first (comma first ++ layout.gap ++ s) = .ok (.more s) := by
  have hgap : skipBlank (layout.gap ++ s) = s := by
    rw [skipBlank_append layout.isBlank_gap, h.skipBlank_eq]
  obtain ⟨c, more, rfl, hc, hbracket⟩ := h
  cases first with
  | true => simp [comma, nextItem, hgap]
  | false => simp [comma, nextItem, hgap, hbracket, skipBlank_cons (c := ',') (by decide)]

/-- An object in a layout ends at its closing brace. -/
theorem nextKey_close (first : Bool) (rest : List Char) :
    nextKey first (layout.close ++ '\x7d' :: rest) = .ok (.done rest) := by
  rw [nextKey, skipBlank_append layout.isBlank_close, skipBlank_cons (by decide)]
  rfl

/-- An object in a layout goes on behind the quote of the next key. -/
theorem nextKey_gap (first : Bool) (s : List Char) :
    nextKey first (comma first ++ layout.gap ++ '"' :: s) = .ok (.more s) := by
  have hgap : skipBlank (layout.gap ++ '"' :: s) = '"' :: s := by
    rw [skipBlank_append layout.isBlank_gap, skipBlank_cons (by decide)]
  cases first with
  | true => simp [comma, nextKey, hgap]
  | false => simp [comma, nextKey, hgap, skipBlank_cons (c := ',') (by decide)]

end Layout

/-- The parts of a list are read back in any layout. -/
theorem readItems_layout (layout : Layout) {reader : Reader α} {parts : List (List Char)}
    {values : List α}
    (h : List.Forall₂ (fun part a => Visible part ∧ reader.Reads part a) parts values)
    (first : Bool) (rest : List Char) :
    readItems reader first (layout.items first parts ++ rest) = .ok (values, rest) := by
  induction h generalizing first with
  | nil =>
    rw [Layout.items, List.append_assoc]
    exact readItems_of_done (layout.nextItem_close first rest)
  | @cons part a parts values hpart _ ih =>
    have htext : layout.items first (part :: parts) ++ rest =
        comma first ++ layout.gap ++ (part ++ (layout.items false parts ++ rest)) := by
      simp only [Layout.items, List.append_assoc]
    rw [htext]
    exact readItems_of_more (layout.nextItem_gap first (hpart.1.append _))
      (hpart.2 _ (layout.stops_items parts rest)) (ih false)

/-- The members of an object take a loop from one state to another. -/
inductive Takes (entry : String → σ → Except Fault (Reader σ)) :
    List (String × List Char) → σ → σ → Prop
  | nil (state : σ) : Takes entry [] state state
  | cons {key : String} {part : List Char} {parts : List (String × List Char)}
      {state state' state'' : σ} {reader : Reader σ} (hentry : entry key state = .ok reader)
      (hpart : reader.Reads part state') (htail : Takes entry parts state' state'') :
      Takes entry ((key, part) :: parts) state state''

/-- A member whose key is written gives its value to the reader for that key. -/
theorem readMember_write {entry : String → σ → Except Fault (Reader σ)} {key : String} {state : σ}
    {reader : Reader σ} (hentry : entry key state = .ok reader) (s : List Char) :
    readMember entry state (key.toList.flatMap Literal.writeChar ++ '"' :: ':' :: s) =
      reader.run s := by
  rw [readMember, Literal.readChars_write_append]
  simp only [String.ofList_toList, hentry, readColon, skipBlank_cons (c := ':') (by decide)]

/-- The first member of a layout, spelled out in front of the other ones. -/
theorem Layout.members_cons_append (layout : Layout) (first : Bool) (key : String)
    (part : List Char) (parts : List (String × List Char)) (rest : List Char) :
    layout.members first ((key, part) :: parts) ++ rest =
      comma first ++ layout.gap ++ '"' :: (key.toList.flatMap Literal.writeChar ++
        '"' :: ':' :: (part ++ (layout.members false parts ++ rest))) := by
  simp [Layout.members, Literal.write]

/-- The members of an object are read back in any layout. -/
theorem readMembers_layout (layout : Layout) {entry : String → σ → Except Fault (Reader σ)}
    {parts : List (String × List Char)} {state state' : σ} (h : Takes entry parts state state')
    (first : Bool) (rest : List Char) :
    readMembers entry first state (layout.members first parts ++ rest) = .ok (state', rest) := by
  induction h generalizing first with
  | nil state =>
    rw [Layout.members, List.append_assoc]
    exact readMembers_of_done (layout.nextKey_close first rest)
  | @cons _ _ later _ _ _ _ hentry hpart _ ih =>
    have hmember := (readMember_write hentry _).trans (hpart _ (layout.stops_members later rest))
    rw [layout.members_cons_append, readMembers_of_more (layout.nextKey_gap first _) hmember]
    exact ih false

end FacetedSearch.Json
