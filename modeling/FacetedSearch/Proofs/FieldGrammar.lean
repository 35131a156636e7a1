import FacetedSearch.Contribution
import FacetedSearch.Proofs.Json.NumberText
import FacetedSearch.Proofs.Text.Cutting
import Mathlib.Data.List.Forall2

/-!
# The grammar of fields

Which fields make a clause, and which clause. `Field.Accepts` says of every kind what shape its
value has to have, and `Field.Makes` relates a field to the text of its clause. Both are stated on
the value itself and do not mention how it is looked at.

`contribution_follows_grammar` is the result: a field makes a clause exactly if it is accepted, the
clause is the one of the grammar, and every other field is skipped. It is put together from a lemma
per way to read a value.
-/

namespace FacetedSearch

/-- A clause is given by its text. -/
theorem Clause.eq_mk_iff {clause : Clause} {text : String} : clause = ⟨text⟩ ↔ clause.text = text := by
  cases clause
  simp

/-! ## Scalars -/

namespace Json

/-- A scalar and its text: a text stands for itself, a number and a truth value are written as in
JSON. -/
inductive Scalar : Json → String → Prop where
  | text (value : String) : Scalar (.text value) value
  | number (value : Number) : Scalar (.number value) (Json.number value).compact
  | boolean (value : Bool) : Scalar (.boolean value) (Json.boolean value).compact

/-- Texts, numbers and truth values. -/
def IsScalar : Json → Prop
  | .text _ | .number _ | .boolean _ => True
  | .null | .list _ | .object _ => False

/-- Scalars other than the empty text. -/
def IsFilled : Json → Prop
  | .text value => value ≠ ""
  | .number _ | .boolean _ => True
  | .null | .list _ | .object _ => False

/-- The scalars are the values that spell a text. -/
theorem isScalar_iff_exists_text {value : Json} : value.IsScalar ↔ ∃ text, Scalar value text := by
  constructor
  · intro h
    cases value with
    | text value => exact ⟨_, .text value⟩
    | number value => exact ⟨_, .number value⟩
    | boolean value => exact ⟨_, .boolean value⟩
    | null | list _ | object _ => cases h
  · rintro ⟨_, h⟩
    cases h <;> trivial

/-- No number and no truth value is written as nothing. -/
theorem isFilled_iff_exists_text {value : Json} :
    value.IsFilled ↔ ∃ text, Scalar value text ∧ text ≠ "" := by
  constructor
  · intro h
    cases value with
    | text value => exact ⟨_, .text value, h⟩
    | number value =>
      refine ⟨_, .number value, ?_⟩
      rw [Ne, compact, chars, String.ofList_eq_empty_iff]
      exact value.chars_ne_nil
    | boolean value =>
      refine ⟨_, .boolean value, ?_⟩
      cases value <;> decide
    | null | list _ | object _ => cases h
  · rintro ⟨_, h, hne⟩
    cases h with
    | text => exact hne
    | number | boolean => trivial

/-- The compact text of a boolean is its word. -/
theorem compact_boolean (value : Bool) : (Json.boolean value).compact = booleanText value := by
  rw [compact, chars, String.ofList_toList]

/-- The text that is taken of a value is the one that it spells. -/
theorem scalarText?_eq_some_iff {value : Json} {text : String} :
    value.scalarText? = some text ↔ Scalar value text := by
  constructor
  · intro h
    cases value with
    | text value =>
      cases h
      exact .text _
    | number value =>
      cases h
      exact .number value
    | boolean value =>
      cases h
      rw [← compact_boolean]
      exact .boolean value
    | null | list _ | object _ => cases h
  · intro h
    cases h with
    | text => rfl
    | number => rfl
    | boolean => rw [compact_boolean, scalarText?]

end Json

open Json (Scalar)

/-- Two scalars in front of a list, and their texts. -/
def Json.Bounds (value : Json) (low high : String) : Prop :=
  ∃ first second rest, value = .list (first :: second :: rest) ∧ Scalar first low ∧
    Scalar second high

/-- Lists that begin with two scalars. -/
def Json.HasBounds (value : Json) : Prop :=
  ∃ first second rest, value = .list (first :: second :: rest) ∧ first.IsScalar ∧ second.IsScalar

/-- The condition of a period, written out. -/
theorem Condition.text_overlap (lower upper low high : String) :
    (overlap lower upper low high).text =
      lower ++ ":[" ++ low ++ " TO " ++ high ++ "] OR " ++
        upper ++ ":[" ++ low ++ " TO " ++ high ++ "] OR (" ++
        lower ++ ":[* TO " ++ low ++ "] AND " ++ upper ++ ":[" ++ high ++ " TO *])" := by
  rw [← String.toList_inj]
  simp [overlap, text, unbounded]

namespace Field

/-! ## The grammar -/

/-- The fields that make a clause although they do not hold paths. -/
def AcceptsByKind (field : Field) : Prop :=
  match field.kind with
  | .text => field.value.IsFilled
  | .listFacet => ∃ items, field.value = .list items ∧ items ≠ [] ∧ ∀ item ∈ items, item.IsScalar
  | .range | .rangeFacet => field.value.HasBounds
  | .dateRangeFacet => ∃ text, field.value = .text text ∧ ' ' ∈ text.toList
  | .periodRange | .periodRangeFacet => field.value.HasBounds ∧
      (∃ lower, field.lower = some lower ∧ lower ≠ "") ∧
      ∃ upper, field.upper = some upper ∧ upper ≠ ""
  | .unrecognized _ => False

/-- The fields that make a clause. The name of the path field counts before the kind. -/
def Accepts (config : Config) (field : Field) : Prop :=
  if field.name = config.pathField then field.value.IsFilled else field.AcceptsByKind

/-- The texts of the clause of a field that does not hold paths. -/
def MakesByKind (field : Field) (text : String) : Prop :=
  match field.kind with
  | .text => ∃ value, Scalar field.value value ∧ value ≠ "" ∧
      text = if field.name = "*" then value else field.name ++ ":" ++ value
  | .listFacet => ∃ items values, field.value = .list items ∧ items ≠ [] ∧
      List.Forall₂ Scalar items values ∧
      text = field.name ++ ":(" ++
        String.intercalate " OR " (values.map fun value => "\"" ++ value ++ "\"") ++ ")"
  | .range | .rangeFacet => ∃ low high, field.value.Bounds low high ∧
      text = field.name ++ ":[" ++ low ++ " TO " ++ high ++ "]"
  | .dateRangeFacet => ∃ low high rest, field.value = .text (low ++ " " ++ high ++ rest) ∧
      ' ' ∉ low.toList ∧ ' ' ∉ high.toList ∧ (rest = "" ∨ ∃ more, rest = " " ++ more) ∧
      text = field.name ++ ":[" ++ low ++ " TO " ++ high ++ "]"
  | .periodRange | .periodRangeFacet => ∃ low high lower upper, field.value.Bounds low high ∧
      field.lower = some lower ∧ lower ≠ "" ∧ field.upper = some upper ∧ upper ≠ "" ∧
      text = lower ++ ":[" ++ low ++ " TO " ++ high ++ "] OR " ++
        upper ++ ":[" ++ low ++ " TO " ++ high ++ "] OR (" ++
        lower ++ ":[* TO " ++ low ++ "] AND " ++ upper ++ ":[" ++ high ++ " TO *])"
  | .unrecognized _ => False

/-- The text of the clause that a field makes. On the path field reserved characters are escaped. -/
def Makes (config : Config) (field : Field) (text : String) : Prop :=
  if field.name = config.pathField then
    ∃ value, Scalar field.value value ∧ value ≠ "" ∧
      text = field.name ++ ":" ++ Text.Reserved.escape value
  else field.MakesByKind text

/-! ## One lemma for each way to read a value -/

/-- A scalar is accepted with the text that it spells, unless that text is empty. -/
theorem scalarOf_eq_ok_iff {value : Json} {text : String} :
    scalarOf value = .ok text ↔ Scalar value text ∧ text ≠ "" := by
  rw [← Json.scalarText?_eq_some_iff]
  cases value with
  | null => simp [scalarOf, Json.scalarText?]
  | list _ | object _ => simp [scalarOf, Json.scalarText?]
  | text value | number value | boolean value =>
    simp only [scalarOf, Json.scalarText?, Option.some.injEq]
    split <;> grind

/-- A mapped reading succeeds with the images of what the reading succeeds with. -/
theorem map_eq_ok_iff {α β : Type} {reading : Except SkipReason α} {f : α → β} {b : β} :
    reading.map f = .ok b ↔ ∃ a, reading = .ok a ∧ b = f a := by
  cases reading <;> simp [Except.map, eq_comm]

/-- A text field makes its text, behind its name unless the name is the wildcard. -/
theorem textClause_eq_ok_iff {field : Field} {clause : Clause} :
    field.textClause = .ok clause ↔ ∃ value, Scalar field.value value ∧ value ≠ "" ∧
      clause.text = if field.name = "*" then value else field.name ++ ":" ++ value := by
  have hmap : field.textClause = (scalarOf field.value).map fun value =>
      ⟨if field.name = "*" then value else field.name ++ ":" ++ value⟩ := by
    rw [textClause]
    cases scalarOf field.value <;> rfl
  rw [hmap, map_eq_ok_iff]
  simp only [scalarOf_eq_ok_iff, Clause.eq_mk_iff, and_assoc]

/-- A path field makes its name and its escaped text. -/
theorem pathClause_eq_ok_iff {field : Field} {clause : Clause} :
    field.pathClause = .ok clause ↔ ∃ value, Scalar field.value value ∧ value ≠ "" ∧
      clause.text = field.name ++ ":" ++ Text.Reserved.escape value := by
  have hmap : field.pathClause = (scalarOf field.value).map fun value =>
      ⟨field.name ++ ":" ++ Text.Reserved.escape value⟩ := by
    rw [pathClause]
    cases scalarOf field.value <;> rfl
  rw [hmap, map_eq_ok_iff]
  simp only [scalarOf_eq_ok_iff, Clause.eq_mk_iff, and_assoc]

/-- Every item has to be a scalar, at whatever position. -/
theorem literalsOf_eq_ok_iff {items : List Json} {texts : List String} :
    literalsOf items = .ok texts ↔ List.Forall₂ Scalar items texts := by
  induction items generalizing texts with
  | nil => simp [literalsOf, eq_comm]
  | cons item items ih =>
    simp only [literalsOf, List.forall₂_cons_left_iff, ← ih, ← Json.scalarText?_eq_some_iff]
    cases item.scalarText? with
    | none => simp
    | some text => cases literalsOf items <;> simp [eq_comm]

/-- A list that is not empty makes the alternatives of its literals, or is skipped as they are. -/
theorem listClause_eq_map {field : Field} {items : List Json} (hvalue : field.value = .list items)
    (hitems : items ≠ []) :
    field.listClause = (literalsOf items).map (alternatives field.name) := by
  rw [listClause, hvalue, itemsOf]
  cases items with
  | nil => exact absurd rfl hitems
  | cons item items =>
    dsimp only
    cases literalsOf (item :: items) <;> rfl

/-- A list field makes the quoted texts of its items, as alternatives in parentheses. -/
theorem listClause_eq_ok_iff {field : Field} {clause : Clause} :
    field.listClause = .ok clause ↔ ∃ items values, field.value = .list items ∧ items ≠ [] ∧
      List.Forall₂ Scalar items values ∧
      clause.text = field.name ++ ":(" ++
        String.intercalate " OR " (values.map fun value => "\"" ++ value ++ "\"") ++ ")" := by
  cases hvalue : field.value with
  | list items =>
    cases items with
    | nil => simp [listClause, itemsOf, hvalue]
    | cons item items =>
      rw [listClause_eq_map hvalue (List.cons_ne_nil _ _), map_eq_ok_iff]
      simp [literalsOf_eq_ok_iff, alternatives, Clause.eq_mk_iff]
  | null | text _ | number _ | boolean _ | object _ => simp [listClause, itemsOf, hvalue]

/-- A bound is the text that a value spells, the empty one included. -/
theorem boundOf_eq_ok_iff {value : Json} {text : String} :
    boundOf value = .ok text ↔ Scalar value text := by
  rw [← Json.scalarText?_eq_some_iff, boundOf]
  cases value.scalarText? <;> simp

/-- Bounds are accepted as the texts of the first two items of a list. -/
theorem boundsOf_eq_ok_iff {value : Json} {low high : String} :
    boundsOf value = .ok (low, high) ↔ value.Bounds low high := by
  rw [Json.Bounds, boundsOf]
  cases value with
  | list items =>
    match items with
    | [] | [_] => simp [itemsOf]
    | first :: second :: rest =>
      simp only [itemsOf, Json.list.injEq, List.cons.injEq, ← boundOf_eq_ok_iff]
      cases hfirst : boundOf first <;> cases hsecond : boundOf second <;> simp [hfirst, hsecond]
  | null | text _ | number _ | boolean _ | object _ => simp [itemsOf]

/-- A range field makes its name and its two bounds in brackets. -/
theorem rangeClause_eq_ok_iff {field : Field} {clause : Clause} :
    field.rangeClause = .ok clause ↔ ∃ low high, field.value.Bounds low high ∧
      clause.text = field.name ++ ":[" ++ low ++ " TO " ++ high ++ "]" := by
  have hmap : field.rangeClause = (boundsOf field.value).map fun bounds =>
      ⟨field.name ++ ":[" ++ bounds.1 ++ " TO " ++ bounds.2 ++ "]"⟩ := by
    rw [rangeClause]
    cases boundsOf field.value <;> rfl
  rw [hmap, map_eq_ok_iff]
  simp only [Prod.exists, boundsOf_eq_ok_iff, Clause.eq_mk_iff]

/-- A string that begins with a space. -/
theorem exists_eq_space_append_iff {text : String} :
    (text = "" ∨ ∃ more, text = " " ++ more) ↔
      (text.toList = [] ∨ ∃ more, text.toList = ' ' :: more) := by
  rw [String.toList_eq_nil_iff]
  refine or_congr_right ⟨?_, ?_⟩
  · rintro ⟨more, rfl⟩
    exact ⟨more.toList, by simp⟩
  · rintro ⟨more, hmore⟩
    refine ⟨String.ofList more, String.toList_inj.mp ?_⟩
    simpa using hmore

/-- The first two words are cut at the first two spaces; what stands behind the second is left out.
-/
theorem firstTwoWords_eq_ok_iff {text low high : String} :
    firstTwoWords text.toList = .ok (low, high) ↔ ∃ rest, text = low ++ " " ++ high ++ rest ∧
      ' ' ∉ low.toList ∧ ' ' ∉ high.toList ∧ (rest = "" ∨ ∃ more, rest = " " ++ more) := by
  constructor
  · intro h
    rw [firstTwoWords] at h
    split at h
    · cases h
    cases hbehind : text.toList.dropWhile (· != ' ') with
    | nil =>
      rw [hbehind] at h
      cases h
    | cons c behind =>
      simp only [hbehind, Except.ok.injEq, Prod.mk.injEq] at h
      obtain ⟨rfl, rfl⟩ := h
      obtain ⟨htext, hfirst, hspace⟩ := Text.takeWhile_ne_and_dropWhile_ne_iff.mp ⟨rfl, hbehind⟩
      obtain ⟨hrest, hsecond, hend⟩ :=
        Text.takeWhile_ne_and_dropWhile_ne_iff (c := ' ') (s := behind).mp ⟨rfl, rfl⟩
      obtain rfl : c = ' ' := by simpa using hspace
      refine ⟨String.ofList (behind.dropWhile (· != ' ')), ?_, by simpa using hfirst,
        by simpa using hsecond, exists_eq_space_append_iff.mpr (by simpa using hend)⟩
      rw [← String.toList_inj]
      conv_lhs => rw [htext, hrest]
      simp
  · rintro ⟨rest, rfl, hlow, hhigh, hrest⟩
    obtain ⟨hfirst, hbehind⟩ := Text.takeWhile_ne_and_dropWhile_ne_iff.mpr
      ⟨rfl, hlow, .inr ⟨high.toList ++ rest.toList, rfl⟩⟩
    obtain ⟨hsecond, -⟩ := Text.takeWhile_ne_and_dropWhile_ne_iff.mpr
      ⟨rfl, hhigh, exists_eq_space_append_iff.mp hrest⟩
    have htext : (low ++ " " ++ high ++ rest).toList =
        low.toList ++ ' ' :: (high.toList ++ rest.toList) := by simp
    rw [firstTwoWords, htext, if_neg (by simp), hbehind]
    simp [hfirst, hsecond]

/-- The ends of a period are named if both names are given and neither is empty. -/
theorem periodFields?_eq_some_iff {field : Field} {lower upper : String} :
    field.periodFields? = some (lower, upper) ↔
      field.lower = some lower ∧ lower ≠ "" ∧ field.upper = some upper ∧ upper ≠ "" := by
  rw [periodFields?]
  cases field.lower <;> cases field.upper <;> grind

/-- A period field makes the three alternatives of an overlap, over both of its ends. -/
theorem periodClause_eq_ok_iff {field : Field} {clause : Clause} :
    field.periodClause = .ok clause ↔ ∃ low high lower upper, field.value.Bounds low high ∧
      field.lower = some lower ∧ lower ≠ "" ∧ field.upper = some upper ∧ upper ≠ "" ∧
      clause.text = lower ++ ":[" ++ low ++ " TO " ++ high ++ "] OR " ++
        upper ++ ":[" ++ low ++ " TO " ++ high ++ "] OR (" ++
        lower ++ ":[* TO " ++ low ++ "] AND " ++ upper ++ ":[" ++ high ++ " TO *])" := by
  have hread : field.periodClause = .ok clause ↔ ∃ low high lower upper,
      boundsOf field.value = .ok (low, high) ∧ field.periodFields? = some (lower, upper) ∧
        clause = (Condition.overlap lower upper low high).clause := by
    rw [periodClause]
    cases boundsOf field.value with
    | error reason => simp
    | ok bounds => cases field.periodFields? <;> simp [eq_comm, Prod.ext_iff]
  simp only [hread, boundsOf_eq_ok_iff, periodFields?_eq_some_iff, Condition.clause,
    Clause.eq_mk_iff, Condition.text_overlap, and_assoc]

/-- No number and no truth value is written with a space. -/
theorem eq_text_of_scalar {value : Json} {text : String} (h : Scalar value text)
    (hspace : ' ' ∈ text.toList) : value = .text text := by
  cases h with
  | text => rfl
  | number number =>
    rw [Json.compact, Json.chars, String.toList_ofList] at hspace
    exact absurd hspace number.space_not_mem_chars
  | boolean value => cases value <;> simp [Json.compact_boolean, booleanText] at hspace

/-- A range of dates is held by a text, because what has no space is too short. -/
theorem dateRangeClause_eq_ok_iff {field : Field} {clause : Clause} :
    field.dateRangeClause = .ok clause ↔ ∃ low high rest,
      field.value = .text (low ++ " " ++ high ++ rest) ∧ ' ' ∉ low.toList ∧ ' ' ∉ high.toList ∧
      (rest = "" ∨ ∃ more, rest = " " ++ more) ∧
      clause.text = field.name ++ ":[" ++ low ++ " TO " ++ high ++ "]" := by
  have hdates : ∀ value text, dateTextOf value = .ok text ↔
      (value = .null ∧ text = "") ∨ Scalar value text := by
    intro value text
    rw [← Json.scalarText?_eq_some_iff]
    cases value <;> simp [dateTextOf, Json.scalarText?, eq_comm]
  have hread : field.dateRangeClause = .ok clause ↔ ∃ text low high,
      dateTextOf field.value = .ok text ∧ firstTwoWords text.toList = .ok (low, high) ∧
        clause = (Condition.within field.name low high).clause := by
    rw [dateRangeClause]
    cases dateTextOf field.value with
    | error reason => simp
    | ok text =>
      simp only [Except.ok.injEq, exists_and_left, exists_eq_left']
      cases firstTwoWords text.toList <;> simp [eq_comm, Prod.ext_iff]
  rw [hread]
  constructor
  · rintro ⟨text, low, high, htext, hwords, rfl⟩
    obtain ⟨rest, rfl, hlow, hhigh, hrest⟩ := firstTwoWords_eq_ok_iff.mp hwords
    refine ⟨low, high, rest, ?_, hlow, hhigh, hrest, rfl⟩
    rcases (hdates _ _).mp htext with ⟨_, hempty⟩ | hscalar
    · have hchars := congrArg String.toList hempty
      simp at hchars
    · exact eq_text_of_scalar hscalar (by simp)
  · rintro ⟨low, high, rest, hvalue, hlow, hhigh, hrest, htext⟩
    refine ⟨_, low, high, (hdates _ _).mpr (.inr (hvalue ▸ Scalar.text _)), ?_,
      Clause.eq_mk_iff.mpr htext⟩
    exact firstTwoWords_eq_ok_iff.mpr ⟨rest, rfl, hlow, hhigh, hrest⟩

/-! ## What a field contributes -/

/-- The clause of a kind is the text that the grammar makes for it. -/
theorem kindClause_eq_ok_iff {field : Field} {clause : Clause} :
    field.kindClause = .ok clause ↔ field.MakesByKind clause.text := by
  rw [kindClause, MakesByKind]
  cases field.kind with
  | text => exact textClause_eq_ok_iff
  | listFacet => exact listClause_eq_ok_iff
  | range | rangeFacet => exact rangeClause_eq_ok_iff
  | dateRangeFacet => exact dateRangeClause_eq_ok_iff
  | periodRange | periodRangeFacet => exact periodClause_eq_ok_iff
  | unrecognized tag => simp

/-- A field makes the clauses of the grammar, on the path field as a clause that is also counted. -/
theorem contribution_eq_iff_makes {field : Field} {config : Config} {clause : Clause} :
    field.contribution config =
        (if field.name = config.pathField then .path field.name clause else .filter clause) ↔
      field.Makes config clause.text := by
  rw [contribution, Makes]
  split
  · rw [← pathClause_eq_ok_iff]
    cases field.pathClause <;> simp [Contribution.ofOutcome]
  · rw [← kindClause_eq_ok_iff]
    cases field.kindClause <;> simp [Contribution.ofOutcome]

/-- A contribution that is not skipped has one of the two forms that a clause is kept in. -/
theorem clause?_contribution_eq_some_iff {field : Field} {config : Config} {clause : Clause} :
    (field.contribution config).clause? = some clause ↔ field.Makes config clause.text := by
  rw [← contribution_eq_iff_makes, contribution]
  split
  · cases field.pathClause <;> simp [Contribution.ofOutcome, Contribution.clause?]
  · cases field.kindClause <;> simp [Contribution.ofOutcome, Contribution.clause?]

/-! ## Which fields make a clause -/

/-- Items spell texts if every one of them is a scalar. -/
theorem exists_forall₂_scalar_iff {items : List Json} :
    (∃ texts, List.Forall₂ Scalar items texts) ↔ ∀ item ∈ items, item.IsScalar := by
  induction items with
  | nil => simp
  | cons item items ih =>
    rw [List.forall_mem_cons, ← ih, Json.isScalar_iff_exists_text]
    constructor
    · rintro ⟨_, _ | ⟨hitem, hitems⟩⟩
      exact ⟨⟨_, hitem⟩, _, hitems⟩
    · rintro ⟨⟨_, hitem⟩, _, hitems⟩
      exact ⟨_, .cons hitem hitems⟩

/-- A value has bounds if it is a list that begins with two scalars. -/
theorem exists_bounds_iff {value : Json} :
    (∃ low high, value.Bounds low high) ↔ value.HasBounds := by
  simp only [Json.HasBounds, Json.isScalar_iff_exists_text]
  constructor
  · rintro ⟨low, high, first, second, rest, hvalue, hlow, hhigh⟩
    exact ⟨first, second, rest, hvalue, ⟨low, hlow⟩, high, hhigh⟩
  · rintro ⟨first, second, rest, hvalue, ⟨low, hlow⟩, high, hhigh⟩
    exact ⟨low, high, first, second, rest, hvalue, hlow, hhigh⟩

/-- A text has two words if there is a space in it. -/
theorem exists_firstTwoWords_iff {s : List Char} :
    (∃ low high, firstTwoWords s = .ok (low, high)) ↔ ' ' ∈ s := by
  rw [firstTwoWords]
  split
  · simp_all
  · cases hbehind : s.dropWhile (· != ' ') with
    | nil =>
      have hnone : ' ' ∉ s := fun h => by simpa using List.dropWhile_eq_nil_iff.mp hbehind ' ' h
      simpa using hnone
    | cons c behind =>
      obtain ⟨hs, -, hspace⟩ := Text.takeWhile_ne_and_dropWhile_ne_iff.mp ⟨rfl, hbehind⟩
      obtain rfl : c = ' ' := by simpa using hspace
      have hmem : ' ' ∈ s := by
        rw [hs]
        simp
      simpa using hmem

/-- A text with a space falls into two words and a rest. -/
theorem space_mem_iff {text : String} :
    ' ' ∈ text.toList ↔ ∃ low high rest, text = low ++ " " ++ high ++ rest ∧
      ' ' ∉ low.toList ∧ ' ' ∉ high.toList ∧ (rest = "" ∨ ∃ more, rest = " " ++ more) := by
  rw [← exists_firstTwoWords_iff]
  exact exists_congr fun low => exists_congr fun high => firstTwoWords_eq_ok_iff

/-- A kind makes some text from exactly the values that it accepts. -/
theorem exists_makesByKind_iff {field : Field} :
    (∃ text, field.MakesByKind text) ↔ field.AcceptsByKind := by
  simp only [MakesByKind, AcceptsByKind]
  cases field.kind with
  | text =>
    rw [Json.isFilled_iff_exists_text]
    exact ⟨fun ⟨_, value, hvalue, hfilled, _⟩ => ⟨value, hvalue, hfilled⟩,
      fun ⟨value, hvalue, hfilled⟩ => ⟨_, value, hvalue, hfilled, rfl⟩⟩
  | listFacet =>
    simp only [← exists_forall₂_scalar_iff]
    exact ⟨fun ⟨_, items, texts, hvalue, hitems, htexts, _⟩ => ⟨items, hvalue, hitems, texts, htexts⟩,
      fun ⟨items, hvalue, hitems, texts, htexts⟩ => ⟨_, items, texts, hvalue, hitems, htexts, rfl⟩⟩
  | range | rangeFacet =>
    rw [← exists_bounds_iff]
    exact ⟨fun ⟨_, low, high, hvalue, _⟩ => ⟨low, high, hvalue⟩,
      fun ⟨low, high, hvalue⟩ => ⟨_, low, high, hvalue, rfl⟩⟩
  | dateRangeFacet =>
    constructor
    · rintro ⟨_, low, high, rest, hvalue, hlow, hhigh, hrest, _⟩
      exact ⟨_, hvalue, space_mem_iff.mpr ⟨low, high, rest, rfl, hlow, hhigh, hrest⟩⟩
    · rintro ⟨text, hvalue, hspace⟩
      obtain ⟨low, high, rest, rfl, hlow, hhigh, hrest⟩ := space_mem_iff.mp hspace
      exact ⟨_, low, high, rest, hvalue, hlow, hhigh, hrest, rfl⟩
  | periodRange | periodRangeFacet =>
    rw [← exists_bounds_iff]
    constructor
    · rintro ⟨_, low, high, lower, upper, hvalue, hlower, hlowerName, hupper, hupperName, _⟩
      exact ⟨⟨low, high, hvalue⟩, ⟨lower, hlower, hlowerName⟩, upper, hupper, hupperName⟩
    · rintro ⟨⟨low, high, hvalue⟩, ⟨lower, hlower, hlowerName⟩, upper, hupper, hupperName⟩
      exact ⟨_, low, high, lower, upper, hvalue, hlower, hlowerName, hupper, hupperName, rfl⟩
  | unrecognized tag => simp

/-- A field makes some text if and only if it is accepted, the path field included. -/
theorem exists_makes_iff_accepts {field : Field} {config : Config} :
    (∃ text, field.Makes config text) ↔ field.Accepts config := by
  simp only [Makes, Accepts]
  split
  · rw [Json.isFilled_iff_exists_text]
    exact ⟨fun ⟨_, value, hvalue, hfilled, _⟩ => ⟨value, hvalue, hfilled⟩,
      fun ⟨value, hvalue, hfilled⟩ => ⟨_, value, hvalue, hfilled, rfl⟩⟩
  · exact exists_makesByKind_iff

/-- A field makes a clause exactly if its value has the shape that its kind asks for, or on the path
field the shape of a path, and is skipped otherwise. The clause is the one of the grammar. -/
theorem contribution_follows_grammar (config : Config) (field : Field) :
    ((∃ clause, (field.contribution config).clause? = some clause) ↔ field.Accepts config) ∧
    ((∃ reason, field.contribution config = .skipped reason) ↔ ¬field.Accepts config) ∧
    ∀ clause, field.contribution config =
        (if field.name = config.pathField then .path field.name clause else .filter clause) ↔
      field.Makes config clause.text := by
  have hclause : (∃ clause, (field.contribution config).clause? = some clause) ↔
      field.Accepts config := by
    rw [← exists_makes_iff_accepts]
    constructor
    · rintro ⟨clause, hclause⟩
      exact ⟨clause.text, clause?_contribution_eq_some_iff.mp hclause⟩
    · rintro ⟨text, htext⟩
      exact ⟨⟨text⟩, clause?_contribution_eq_some_iff.mpr htext⟩
  refine ⟨hclause, ?_, fun clause => contribution_eq_iff_makes⟩
  rw [← hclause]
  cases field.contribution config <;> simp [Contribution.clause?]

end Field

end FacetedSearch
