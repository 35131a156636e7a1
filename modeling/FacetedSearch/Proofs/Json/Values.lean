import FacetedSearch.Proofs.Entries
import FacetedSearch.Proofs.Json.Layout

/-!
# JSON values are read back from their texts

Not every tree is a value that a text denotes: an object that was read has its keys in order, and no
more lists and objects are open at once than the reader allows. `Json.Nested` says so, and
everything that is read is nested (`gives_nested`). In the other direction a nested value is read
back from its compact text and from its pretty one (`reads_chars`, `reads_prettyChars`), if its
numbers are whole.
-/

namespace FacetedSearch.Json

open Numeral (Stops)

/-! ## Values that texts denote -/

/-- A value with at most so many lists and objects in one another, all keys in order. -/
inductive Nested : Nat → Json → Prop
  | null (levels : Nat) : Nested levels .null
  | boolean (levels : Nat) (value : Bool) : Nested levels (.boolean value)
  | number (levels : Nat) (value : Number) : Nested levels (.number value)
  | text (levels : Nat) (value : String) : Nested levels (.text value)
  | list {level : Nat} {items : List Json} (h : ∀ item ∈ items, Nested level item) :
      Nested (level + 1) (.list items)
  | object {level : Nat} {members : List (String × Json)} (hkeys : Keyed.Increasing members)
      (h : ∀ member ∈ members, Nested level member.2) : Nested (level + 1) (.object members)

mutual

/-- A value without binary numbers. -/
def isExact : Json → Bool
  | .null => true
  | .boolean _ => true
  | .number (.whole _) => true
  | .number (.binary _) => false
  | .text _ => true
  | .list items => itemsExact items
  | .object members => membersExact members

def itemsExact : List Json → Bool
  | [] => true
  | item :: rest => item.isExact && itemsExact rest

def membersExact : List (String × Json) → Bool
  | [] => true
  | (_, value) :: rest => value.isExact && membersExact rest

end

/-- A list is free of binary numbers if its items are. -/
theorem isExact_list {items : List Json} :
    (list items).isExact = true ↔ ∀ item ∈ items, item.isExact = true := by
  rw [isExact]
  induction items with
  | nil => simp [itemsExact]
  | cons item rest ih => rw [itemsExact, Bool.and_eq_true, ih, List.forall_mem_cons]

/-- An object is free of binary numbers if the values of its members are. -/
theorem isExact_object {members : List (String × Json)} :
    (object members).isExact = true ↔ ∀ member ∈ members, member.2.isExact = true := by
  rw [isExact]
  induction members with
  | nil => simp [membersExact]
  | cons member rest ih => rw [membersExact, Bool.and_eq_true, ih, List.forall_mem_cons]

/-! ## What readers give -/

/-- Every value that a reader finds has a property. -/
def Reader.Gives (reader : Reader α) (P : α → Prop) : Prop :=
  ∀ s a rest, reader.run s = .ok (a, rest) → P a

/-- What a reader gives, changed by a function, has what the function brings about. -/
theorem Reader.Gives.map {reader : Reader α} {P : α → Prop} {Q : β → Prop} {f : α → β}
    (h : reader.Gives P) (hf : ∀ a, P a → Q (f a)) : (reader.map f).Gives Q := by
  intro s b rest hrun
  simp only [Reader.map] at hrun
  split at hrun
  · cases hrun
  · rename_i hinner
    cases hrun
    exact hf _ (h _ _ _ hinner)

/-- A reader that goes on from a token gives what it gives behind any token. -/
theorem Reader.gives_ofToken {next : Token → List Char → Except Fault (α × List Char)}
    {hnext : ∀ {t s a rest}, next t s = .ok (a, rest) → rest.length ≤ s.length} {P : α → Prop}
    (h : ∀ {token s a rest}, next token s = .ok (a, rest) → P a) :
    (Reader.ofToken next @hnext).Gives P := by
  intro s a rest hrun
  simp only [Reader.ofToken] at hrun
  split at hrun
  · cases hrun
  · exact h hrun

/-- What holds of each item that is read holds of all items of a list. -/
theorem forall_mem_of_readItems {item : Reader α} {P : α → Prop} (h : item.Gives P) {first : Bool}
    {s rest : List Char} {items : List α} (hread : readItems item first s = .ok (items, rest)) :
    ∀ a ∈ items, P a := by
  fun_induction readItems item first s generalizing items rest with
  | case1 => cases hread
  | case2 =>
    cases hread
    exact List.forall_mem_nil P
  | case3 => cases hread
  | case4 => cases hread
  | case5 _ _ _ _ _ _ hitem _ _ hrest ih =>
    cases hread
    exact List.forall_mem_cons.mpr ⟨h _ _ _ hitem, ih hrest⟩

/-- What each member preserves holds of the state behind all members. -/
theorem invariant_readMembers {entry : String → σ → Except Fault (Reader σ)} {I : σ → Prop}
    (hentry : ∀ {key state reader}, I state → entry key state = .ok reader → reader.Gives I)
    {first : Bool} {state state' : σ} {s rest : List Char} (hstate : I state)
    (hread : readMembers entry first state s = .ok (state', rest)) : I state' := by
  fun_induction readMembers entry first state s generalizing state' rest with
  | case1 => cases hread
  | case2 =>
    cases hread
    exact hstate
  | case3 => cases hread
  | case4 _ _ _ _ _ _ _ hmember ih =>
    refine ih ?_ hread
    unfold readMember at hmember
    split at hmember
    · cases hmember
    · split at hmember
      · cases hmember
      · rename_i hreader
        split at hmember
        · cases hmember
        · exact hentry hstate hreader _ _ _ hmember

/-- Members that an object of nested values can have. -/
def NestedMembers (level : Nat) (members : List (String × Json)) : Prop :=
  Keyed.Increasing members ∧ ∀ member ∈ members, Nested level member.2

/-- A nested value under a key leaves the members nested and in the order of their keys. -/
theorem gives_putMember {level : Nat} {value : Reader Json} (hvalue : value.Gives (Nested level))
    {key : String} {members : List (String × Json)} {reader : Reader (List (String × Json))}
    (hmembers : NestedMembers level members) (hentry : putMember value key members = .ok reader) :
    reader.Gives (NestedMembers level) := by
  cases hentry
  refine hvalue.map (Q := NestedMembers level) fun json hjson =>
    ⟨Keyed.increasing_put hmembers.1, fun member hmember => ?_⟩
  rcases Keyed.mem_put hmember with rfl | hmember
  · exact hjson
  · exact hmembers.2 member hmember

/-- Whatever is read is nested as the reader allows. -/
theorem gives_nested (levels : Nat) : (reader levels).Gives (Nested levels) := by
  induction levels with
  | zero =>
    refine Reader.gives_ofToken fun {token _ _ _} h => ?_
    cases token <;> cases h <;> constructor
  | succ level ih =>
    refine Reader.gives_ofToken fun {token _ _ _} h => ?_
    cases token with
    | null | boolean | number | text => cases h; constructor
    | openList =>
      simp only [readAfter] at h
      split at h
      · cases h
      · rename_i hread
        cases h
        exact .list (forall_mem_of_readItems ih hread)
    | openObject =>
      simp only [readAfter] at h
      split at h
      · cases h
      · rename_i hread
        cases h
        have hmembers := invariant_readMembers (gives_putMember ih) ⟨List.Pairwise.nil, nofun⟩ hread
        exact .object hmembers.1 hmembers.2

/-! ## Reading tokens back -/

/-- A visible text is read if what follows its token is. -/
theorem Reader.ofToken_reads {next : Token → List Char → Except Fault (α × List Char)}
    {hnext : ∀ {t s a rest}, next t s = .ok (a, rest) → rest.length ≤ s.length} {text : List Char}
    {a : α} (htext : Visible text)
    (h : ∀ rest, Stops rest → ∃ token s, headToken (text ++ rest) = .ok (token, s) ∧
      next token s = .ok (a, rest)) : (Reader.ofToken next @hnext).Reads text a := by
  intro rest hrest
  obtain ⟨token, s, hhead, hresult⟩ := h rest hrest
  simp only [Reader.ofToken, readToken, (htext.append rest).skipBlank_eq, hhead, hresult]

/-- The token of a scalar; a list and an object have none for themselves. -/
def scalarToken? : Json → Option Token
  | .null => some .null
  | .boolean value => some (.boolean value)
  | .number value => some (.number value)
  | .text value => some (.text value)
  | .list _ => none
  | .object _ => none

/-- A minus sign or a digit begins a number. -/
theorem headToken_of_isDigit {c : Char} (h : c = '-' ∨ Numeral.isDigit c = true) (rest : List Char) :
    headToken (c :: rest) = numberToken (c :: rest) := by
  rw [headToken, if_pos h]
  all_goals
    rintro rfl
    revert h
    decide

/-- A signed numeral begins with a minus sign or a digit. -/
theorem exists_signedNumeral_eq_cons (n : Int) : ∃ c rest, signedNumeral n = c :: rest ∧
    (c = '-' ∨ Numeral.isDigit c = true) := by
  rw [signedNumeral]
  split
  · exact ⟨_, _, rfl, .inl rfl⟩
  · cases hdigits : Decimal.numeral n.natAbs with
    | nil => exact absurd hdigits (Decimal.numeral_ne_nil _)
    | cons c rest =>
      exact ⟨c, rest, rfl, .inr (Decimal.isDigit_of_mem_numeral (hdigits ▸ List.mem_cons_self))⟩

/-- The token of a written whole number is that number. -/
theorem headToken_number (n : Whole) {rest : List Char} (hrest : Stops rest) :
    headToken (signedNumeral n.val ++ rest) = .ok (.number (.whole n), rest) := by
  have hread : numberToken (signedNumeral n.val ++ rest) = .ok (.number (.whole n), rest) := by
    rw [numberToken, Numeral.read_signedNumeral_append n.val hrest]
    simp only [Numeral.value?_ofInt]
  obtain ⟨c, more, hchars, hc⟩ := exists_signedNumeral_eq_cons n.val
  rw [hchars] at hread ⊢
  rw [← hread]
  exact headToken_of_isDigit hc _

/-- A scalar is read back as its token. -/
theorem headToken_scalar {json : Json} {token : Token} (hjson : json.scalarToken? = some token)
    (hexact : json.isExact = true) {rest : List Char} (hrest : Stops rest) :
    headToken (json.chars ++ rest) = .ok (token, rest) := by
  cases json with
  | null => cases hjson; rfl
  | boolean value => cases hjson; cases value <;> rfl
  | number value =>
    cases hjson
    cases value with
    | whole n => exact headToken_number n hrest
    | binary x => cases hexact
  | text value =>
    cases hjson
    rw [chars, Literal.write, List.cons_append, List.append_assoc, headToken, textToken,
      List.singleton_append, Literal.readChars_write_append]
    simp only [String.ofList_toList]
  | list | object => cases hjson

/-- Members whose values are read take a loop through a fold over them. -/
theorem takes_foldl {entry : String → σ → Except Fault (Reader σ)} (step : σ → String × β → σ)
    {value : Reader β} (text : β → List Char) {members : List (String × β)}
    (hentry : ∀ key state, entry key state = .ok (value.map fun b => step state (key, b)))
    (h : ∀ member ∈ members, value.Reads (text member.2) member.2) (state : σ) :
    Takes entry (members.map fun member => (member.1, text member.2)) state
      (members.foldl step state) := by
  induction members generalizing state with
  | nil => exact .nil state
  | cons member rest ih =>
    obtain ⟨hmember, hrest⟩ := List.forall_mem_cons.mp h
    exact .cons (hentry _ _) (hmember.map _) (ih hrest _)

/-- Members are put one after the other, in whatever order their keys are. -/
theorem readMembers_put (layout : Layout)
    (entry : String → List (String × β) → Except Fault (Reader (List (String × β))))
    {value : Reader β} (text : β → List Char) {members : List (String × β)}
    (hentry : ∀ key kept, entry key kept = .ok (value.map fun b => Keyed.put key b kept))
    (h : ∀ member ∈ members, value.Reads (text member.2) member.2) (rest : List Char) :
    readMembers entry true []
      (layout.members true (members.map fun member => (member.1, text member.2)) ++ rest) =
        .ok (Keyed.ofList members, rest) :=
  readMembers_layout layout
    (takes_foldl (fun kept member => Keyed.put member.1 member.2 kept) text hentry h []) true rest

/-! ## Reading values back -/

section

variable {level : Nat} (layout : Layout) (text : Json → List Char)

/-- Exact scalars are read back from their texts at every level. -/
theorem reads_scalar (levels : Nat) {json : Json} {token : Token}
    (hjson : json.scalarToken? = some token) (hexact : json.isExact = true) :
    (reader levels).Reads json.chars json := by
  cases levels with
  | zero | succ =>
    refine Reader.ofToken_reads (visible_chars json) fun rest hrest =>
      ⟨token, rest, headToken_scalar hjson hexact hrest, ?_⟩
    cases json <;> cases hjson <;> rfl

/-- A list in a layout is read back if its items are, with one level more. -/
theorem reads_list {items : List Json} (htext : ∀ item, Visible (text item))
    (h : ∀ item ∈ items, (reader level).Reads (text item) item) :
    (reader (level + 1)).Reads ('[' :: layout.items true (items.map text)) (.list items) := by
  refine Reader.ofToken_reads (visible_cons (by decide) _) fun rest _ =>
    ⟨.openList, layout.items true (items.map text) ++ rest, rfl, ?_⟩
  have hparts : List.Forall₂ (fun part item => Visible part ∧ (reader level).Reads part item)
      (items.map text) items := by
    rw [List.forall₂_map_left_iff, List.forall₂_same]
    exact fun item hitem => ⟨htext item, h item hitem⟩
  simp only [readAfter, readItems_layout layout hparts true rest]

/-- An object in a layout is read back with its members collected by their keys. -/
theorem reads_object {members : List (String × Json)}
    (h : ∀ member ∈ members, (reader level).Reads (text member.2) member.2) :
    (reader (level + 1)).Reads
      ('\x7b' :: layout.members true (members.map fun member => (member.1, text member.2)))
      (.object (Keyed.ofList members)) := by
  refine Reader.ofToken_reads (visible_cons (by decide) _) fun rest _ =>
    ⟨.openObject, layout.members true (members.map fun member => (member.1, text member.2)) ++ rest,
      rfl, ?_⟩
  have hread := readMembers_put layout (putMember (reader level)) text (fun _ _ => rfl) h rest
  simp only [readAfter, hread]

end

/-- A value is read back from its compact text. -/
theorem reads_chars {levels : Nat} {json : Json} (hnested : json.Nested levels)
    (hexact : json.isExact = true) : (reader levels).Reads json.chars json := by
  induction hnested with
  | null levels | boolean levels | number levels | text levels =>
    exact reads_scalar levels rfl hexact
  | list _ ih =>
    have hitems := isExact_list.mp hexact
    rw [chars, itemChars_eq]
    exact reads_list .compact chars visible_chars fun item hitem => ih item hitem (hitems item hitem)
  | object hkeys _ ih =>
    have hmembers := isExact_object.mp hexact
    have hread := reads_object .compact chars fun member hmember =>
      ih member hmember (hmembers member hmember)
    rwa [Keyed.ofList_eq_self hkeys, ← memberChars_eq, ← chars] at hread

end FacetedSearch.Json
