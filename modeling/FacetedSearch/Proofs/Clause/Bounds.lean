import FacetedSearch.Proofs.FieldGrammar

/-!
# The ends of ranges

A range field takes the first two bounds that its value supplies: the first two items of a list, or
the words in front of the first two spaces of a text. The field is skipped if there are no two of
them, but what they say is not looked at, and a bound may be the empty text. Such a bound leaves a
range without that end, as in `year_i:[ TO 5]`.

`Field.isClosed_iff_bounds` says which clauses lack an end: those of the fields that supply an empty
bound among the first two (`Field.hasEmptyBound_iff`), and no others.
-/

namespace FacetedSearch

namespace Condition

/-- A clause is the one of a condition if its text is the text of the condition. -/
theorem eq_clause_iff {condition : Condition} {clause : Clause} :
    clause = condition.clause ↔ clause.text = condition.text :=
  Clause.eq_mk_iff

/-- The low and the high end of every range of a condition. -/
def ends : Condition → List (String × String)
  | .within _ low high => [(low, high)]
  | .either first second => first.ends ++ second.ends
  | .both first second => first.ends ++ second.ends

/-- Conditions in which no range lacks an end. -/
def IsClosed (condition : Condition) : Prop := ∀ range ∈ condition.ends, range.1 ≠ "" ∧ range.2 ≠ ""

/-- A range is closed if neither of its ends is the empty text. -/
theorem isClosed_within_iff {field low high : String} :
    (within field low high).IsClosed ↔ low ≠ "" ∧ high ≠ "" := by
  simp [IsClosed, ends]

/-- The open ends of a period are written as `*`, so only the bounds of the window matter. -/
theorem isClosed_overlap_iff {lower upper low high : String} :
    (overlap lower upper low high).IsClosed ↔ low ≠ "" ∧ high ≠ "" := by
  simp only [IsClosed, overlap, ends, unbounded, List.cons_append, List.nil_append,
    List.forall_mem_cons]
  have hopen : "*" ≠ "" := by decide
  simp [hopen]

end Condition

/-- The kinds that ask for what lies between two bounds. -/
def Kind.IsRange : Kind → Prop
  | .range | .rangeFacet | .dateRangeFacet | .periodRange | .periodRangeFacet => True
  | .text | .listFacet | .unrecognized _ => False

/-- Only the empty text is written as nothing. -/
theorem Json.Scalar.eq_text_empty_iff {value : Json} {text : String} (h : Scalar value text) :
    value = .text "" ↔ text = "" := by
  cases h with
  | text => rw [Json.text.injEq]
  | number number => simp [compact, chars, number.chars_ne_nil]
  | boolean value => cases value <;> simp [compact_boolean, booleanText]

namespace Field

/-- The first two bounds that the value of a range field supplies. -/
def Bounded (field : Field) (low high : String) : Prop :=
  match field.kind with
  | .dateRangeFacet => ∃ rest, field.value = .text (low ++ " " ++ high ++ rest) ∧
      ' ' ∉ low.toList ∧ ' ' ∉ high.toList ∧ (rest = "" ∨ ∃ more, rest = " " ++ more)
  | _ => field.value.Bounds low high

/-- The condition of a range field between two bounds. That of a period needs the two fields that
hold its ends. -/
def condition? (field : Field) (low high : String) : Option Condition :=
  match field.kind with
  | .periodRange | .periodRangeFacet =>
    field.periodFields?.map fun ends => .overlap ends.1 ends.2 low high
  | _ => some (.within field.name low high)

/-- The values with an empty bound among the first two: a list with an empty text in one of the
first two places, and a text with nothing in front of its first space, or nothing between that one
and the next space or the end. -/
def HasEmptyBound (field : Field) : Prop :=
  match field.kind with
  | .dateRangeFacet => ∃ word rest, field.value = .text (word ++ " " ++ rest) ∧ ' ' ∉ word.toList ∧
      (word = "" ∨ rest = "" ∨ ∃ more, rest = " " ++ more)
  | _ => ∃ first second rest, field.value = .list (first :: second :: rest) ∧
      (first = .text "" ∨ second = .text "")

variable {config : Config} {field : Field} {low high : String}

/-- A range field makes the clause of its condition between its first two bounds. -/
theorem kindClause_eq_ok_iff_of_isRange (hkind : field.kind.IsRange) {clause : Clause} :
    field.kindClause = .ok clause ↔ ∃ low high condition, field.Bounded low high ∧
      field.condition? low high = some condition ∧ clause = condition.clause := by
  rw [kindClause_eq_ok_iff]
  cases hfield : field.kind with
  | range | rangeFacet =>
    simp [MakesByKind, Bounded, condition?, hfield, Condition.eq_clause_iff, Condition.text]
  | dateRangeFacet =>
    simp only [MakesByKind, Bounded, condition?, hfield, Condition.eq_clause_iff]
    refine exists_congr fun low => exists_congr fun high => ⟨?_, ?_⟩
    · rintro ⟨rest, hvalue, hlow, hhigh, hrest, htext⟩
      exact ⟨_, ⟨rest, hvalue, hlow, hhigh, hrest⟩, rfl, htext⟩
    · rintro ⟨_, ⟨rest, hvalue, hlow, hhigh, hrest⟩, hcondition, htext⟩
      obtain rfl := Option.some.inj hcondition
      exact ⟨rest, hvalue, hlow, hhigh, hrest, htext⟩
  | periodRange | periodRangeFacet =>
    simp only [MakesByKind, Bounded, condition?, hfield, Condition.eq_clause_iff,
      ← Condition.text_overlap, Option.map_eq_some_iff, Prod.exists, periodFields?_eq_some_iff]
    refine exists_congr fun low => exists_congr fun high => ⟨?_, ?_⟩
    · rintro ⟨lower, upper, hbounds, hlower, hlowerName, hupper, hupperName, htext⟩
      exact ⟨_, hbounds, ⟨lower, upper, ⟨hlower, hlowerName, hupper, hupperName⟩, rfl⟩, htext⟩
    · rintro ⟨_, hbounds, ⟨lower, upper, ⟨hlower, hlowerName, hupper, hupperName⟩, rfl⟩, htext⟩
      exact ⟨lower, upper, hbounds, hlower, hlowerName, hupper, hupperName, htext⟩
  | text | listFacet | unrecognized _ => exact absurd hkind (by simp [hfield, Kind.IsRange])

/-- Bounds of dates are empty if one of the two given texts is. -/
theorem hasEmptyBound_iff_of_dates (hkind : field.kind = .dateRangeFacet)
    (hbounded : field.Bounded low high) : field.HasEmptyBound ↔ low = "" ∨ high = "" := by
  simp only [Bounded, hkind] at hbounded
  obtain ⟨rest, hvalue, hlow, hhigh, hrest⟩ := hbounded
  simp only [HasEmptyBound, hkind, hvalue, Json.text.injEq]
  constructor
  · rintro ⟨word, behind, htext, hword, hempty⟩
    rw [← String.toList_inj] at htext
    simp only [String.toList_append, List.append_assoc] at htext
    -- The word in front of the first space is the low bound, and the high bound begins behind it.
    obtain ⟨hfirst, hbehind⟩ := Text.eq_and_eq_of_append_cons_eq hlow hword htext
    rcases hempty with rfl | hempty
    · exact .inl (String.toList_inj.mp hfirst)
    · have hbehind : high.toList ++ rest.toList = [] ++ behind.toList := hbehind
      obtain ⟨hsecond, -⟩ := Text.takeWhile_ne_and_dropWhile_ne_iff.mpr
        ⟨hbehind, List.not_mem_nil, exists_eq_space_append_iff.mp hempty⟩
      obtain ⟨hsecond', -⟩ := Text.takeWhile_ne_and_dropWhile_ne_iff.mpr
        ⟨rfl, hhigh, exists_eq_space_append_iff.mp hrest⟩
      exact .inr (String.toList_inj.mp (hsecond'.symm.trans hsecond))
  · rintro (rfl | rfl)
    · exact ⟨"", high ++ rest, by simp [String.append_assoc], hlow, .inl rfl⟩
    · exact ⟨low, rest, by simp, hlow, .inr hrest⟩

/-- Bounds in a list are empty if one of its two texts is. -/
theorem hasEmptyBound_iff_of_list (hkind : field.kind ≠ .dateRangeFacet)
    (hbounded : field.Bounded low high) : field.HasEmptyBound ↔ low = "" ∨ high = "" := by
  simp only [Bounded] at hbounded
  obtain ⟨first, second, rest, hvalue, hfirst, hsecond⟩ := hbounded
  simp only [HasEmptyBound, hvalue, ← hfirst.eq_text_empty_iff, ← hsecond.eq_text_empty_iff,
    Json.list.injEq, List.cons.injEq]
  constructor
  · rintro ⟨_, _, _, ⟨rfl, rfl, -⟩, hempty⟩
    exact hempty
  · intro hempty
    exact ⟨first, second, rest, ⟨rfl, rfl, rfl⟩, hempty⟩

/-- An empty bound is one that the value supplies. -/
theorem hasEmptyBound_iff (hbounded : field.Bounded low high) :
    field.HasEmptyBound ↔ low = "" ∨ high = "" := by
  by_cases hkind : field.kind = .dateRangeFacet
  · exact hasEmptyBound_iff_of_dates hkind hbounded
  · exact hasEmptyBound_iff_of_list hkind hbounded

/-- Every condition of a range kind is closed if neither bound is the empty text. -/
theorem isClosed_iff_of_condition?_eq_some {condition : Condition}
    (h : field.condition? low high = some condition) :
    condition.IsClosed ↔ low ≠ "" ∧ high ≠ "" := by
  rw [condition?] at h
  split at h
  · obtain ⟨ends, -, rfl⟩ := Option.map_eq_some_iff.mp h
    exact Condition.isClosed_overlap_iff
  · obtain ⟨ends, -, rfl⟩ := Option.map_eq_some_iff.mp h
    exact Condition.isClosed_overlap_iff
  · cases h
    exact Condition.isClosed_within_iff

/-- A range kind filters by the clause of its condition, if its value has two bounds. -/
theorem contribution_of_isRange (hkind : field.kind.IsRange) (hname : field.name ≠ config.pathField)
    {clause : Clause} : field.contribution config = .filter clause ↔
      ∃ low high condition, field.Bounded low high ∧ field.condition? low high = some condition ∧
        clause = condition.clause := by
  rw [← kindClause_eq_ok_iff_of_isRange hkind, contribution, if_neg hname]
  cases field.kindClause <;> simp [Contribution.ofOutcome]

/-- A range field that does not hold paths makes the clauses of its condition between its first two
bounds, and none if it has no two. The clause has both ends of every range exactly if neither bound
is empty, that is, if the value has no empty bound among the first two. -/
theorem isClosed_iff_bounds (hkind : field.kind.IsRange) (hname : field.name ≠ config.pathField) :
    (∀ clause, field.contribution config = .filter clause ↔
      ∃ low high condition, field.Bounded low high ∧ field.condition? low high = some condition ∧
        clause = condition.clause) ∧
    ((¬∃ low high, field.Bounded low high) → ∃ reason, field.contribution config = .skipped reason) ∧
    ∀ low high condition, field.Bounded low high → field.condition? low high = some condition →
      (condition.IsClosed ↔ low ≠ "" ∧ high ≠ "") ∧ (condition.IsClosed ↔ ¬field.HasEmptyBound) := by
  refine ⟨fun clause => contribution_of_isRange hkind hname, ?_, ?_⟩
  · intro hunbounded
    cases hkindClause : field.kindClause with
    | ok clause =>
      obtain ⟨low, high, _, hbounded, -⟩ := (kindClause_eq_ok_iff_of_isRange hkind).mp hkindClause
      exact absurd ⟨low, high, hbounded⟩ hunbounded
    | error reason => exact ⟨reason, by rw [contribution, if_neg hname, hkindClause]; rfl⟩
  · intro low high condition hbounded hcondition
    have hclosed := isClosed_iff_of_condition?_eq_some hcondition
    rw [hasEmptyBound_iff hbounded, not_or]
    exact ⟨hclosed, hclosed⟩

/-- Two spaces behind one another leave the high end of a range of dates without a bound. -/
theorem isClosed_iff_bounds_two_spaces :
    let field : Field :=
      ⟨"sent_on_dt", .dateRangeFacet, .text "NOW-1YEAR  NOW", none, none, none⟩
    (field.kind.IsRange ∧ field.name ≠ Config.standard.pathField) ∧
      field.contribution .standard = .filter ⟨"sent_on_dt:[NOW-1YEAR TO ]"⟩ ∧
      ¬(Condition.within "sent_on_dt" "NOW-1YEAR" "").IsClosed := by
  intro field
  have hkind : field.kind.IsRange := trivial
  have hname : field.name ≠ Config.standard.pathField := by decide
  have hbounded : field.Bounded "NOW-1YEAR" "" :=
    ⟨" NOW", rfl, by decide, by decide, .inr ⟨"NOW", rfl⟩⟩
  obtain ⟨hmakes, -, hclosed⟩ := isClosed_iff_bounds hkind hname
  have hends := (hclosed "NOW-1YEAR" "" _ hbounded rfl).1
  refine ⟨⟨hkind, hname⟩, ?_, fun h => (hends.mp h).2 rfl⟩
  exact (hmakes _).mpr ⟨_, _, _, hbounded, rfl, rfl⟩

/-- Of two bounds one is empty, and the range that is written has no low end. -/
theorem range_without_low_end :
    let field : Field := ⟨"year_i", .range, .list [.text "", .ofUInt64 5], none, none, none⟩
    let condition : Condition := .within "year_i" "" "5"
    field.kind.IsRange ∧ field.name ≠ Config.standard.pathField ∧ field.HasEmptyBound ∧
      field.contribution .standard = .filter condition.clause ∧
      condition.text = "year_i:[ TO 5]" ∧ condition.ends = [("", "5")] ∧ ¬condition.IsClosed := by
  intro field condition
  refine ⟨trivial, by decide, ⟨_, _, [], rfl, .inl rfl⟩, rfl, by decide, rfl, ?_⟩
  intro hclosed
  exact (hclosed ("", "5") List.mem_cons_self).1 rfl

end Field

end FacetedSearch
