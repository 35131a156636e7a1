import FacetedSearch.Proofs.Query.PathField

/-!
# The ends of a period, counted and filtered

A period facet names the two fields that hold the ends of its period, and the names are used twice:
they are declared, so that their values are counted, and the clause of the field is on them. A
declaration asks that both names are given (`Field.periodFacets_of_kind_eq`). A clause asks in
addition that neither of them is empty (`Field.periodFields?_eq_none_iff`).

`Request.periodFacets_declared_iff` compares the two uses. They agree on every period facet but one
that gives both names and leaves one of them empty: that field is skipped, and the empty name is
declared (`Request.empty_end_declared`).
-/

namespace FacetedSearch

namespace Field

variable {field : Field}

/-- The names that a period facet declares are both of its ends or none. -/
theorem periodFacets_ne_nil_iff (hkind : field.kind = .periodRangeFacet) :
    field.periodFacets ≠ [] ↔ ∃ lower upper, field.periodFacets = [lower, upper] := by
  rw [periodFacets_of_kind_eq hkind]
  cases field.lower with
  | none => simp
  | some lower => cases field.upper <;> simp

/-- A clause can be made on the names that are declared, unless one of them is empty. -/
theorem periodFields?_eq_none_iff (hkind : field.kind = .periodRangeFacet) :
    field.periodFields? = none ↔ field.periodFacets = [] ∨ "" ∈ field.periodFacets := by
  rw [periodFields?, periodFacets_of_kind_eq hkind]
  cases field.lower with
  | none => simp
  | some lower =>
    cases field.upper with
    | none => simp
    | some upper =>
      have hmem : "" ∈ [lower, upper] ↔ lower = "" ∨ upper = "" := by simp [@eq_comm _ ""]
      dsimp only
      rw [hmem]
      by_cases hempty : lower = "" ∨ upper = ""
      · rw [if_pos hempty]
        exact ⟨fun _ => .inr hempty, fun _ => rfl⟩
      · rw [if_neg hempty]
        simp [not_or.mp hempty]

/-- Between two scalar bounds a clause lacks an end exactly if its fields do. -/
theorem periodClause_eq_missingBoundField_iff (hvalue : field.value.HasBounds) :
    field.periodClause = .error .missingBoundField ↔ field.periodFields? = none := by
  obtain ⟨low, high, hbounds⟩ := exists_bounds_iff.mpr hvalue
  rw [periodClause, boundsOf_eq_ok_iff.mpr hbounds]
  cases field.periodFields? <;> simp

/-- Between two scalar bounds a clause has both ends exactly if names are declared and none is
empty. -/
theorem periodClause_ne_missingBoundField_iff (hkind : field.kind = .periodRangeFacet)
    (hvalue : field.value.HasBounds) :
    field.periodClause ≠ .error .missingBoundField ↔
      field.periodFacets ≠ [] ∧ "" ∉ field.periodFacets := by
  rw [Ne, periodClause_eq_missingBoundField_iff hvalue, periodFields?_eq_none_iff hkind, not_or]

end Field

namespace Request

/-- The names that come up in front of the ends of a period: the fields counted themselves, and the
ends of the periods before it. -/
def namesBefore (request : Request) (before : List Field) : List String :=
  (request.searchFields.filter (·.kind.countsField)).map (·.name) ++
    before.flatMap Field.periodFacets

/-- The names that come up behind the ends of a period: the ends of the periods after it, and the
path field. -/
def namesBehind (request : Request) (config : Config) (after : List Field) : List String :=
  after.flatMap Field.periodFacets ++
    request.fields.filterMap fun field => (field.contribution config).pathField?

variable {request : Request} {before after : List Field} {field : Field}

/-- The ends of a period come up where its field stands. -/
theorem facetFields_eq_split (config : Config)
    (hsearch : request.searchFields = before ++ field :: after) :
    request.facetFields config =
      (request.namesBefore before ++ field.periodFacets ++
        request.namesBehind config after).eraseDups := by
  rw [facetFields_eq_eraseDups, mentioned_eq, namesBefore, namesBehind, fields, hsearch]
  simp only [List.flatMap_append, List.flatMap_cons, List.append_assoc]

/-- Without its ends a period leaves all other names where they are. -/
theorem facetFields_without_ends (config : Config)
    (hsearch : request.searchFields = before ++ field :: after) :
    ({ request with searchFields :=
        before ++ { field with lower := none, upper := none } :: after } : Request).facetFields
      config = (request.namesBefore before ++ request.namesBehind config after).eraseDups := by
  -- The ends have no part in a clause on the path field: that is a matter of name and value.
  have hpath : (({ field with lower := none, upper := none } : Field).contribution config).pathField? =
      (field.contribution config).pathField? := by
    apply Option.ext
    intro name
    rw [Field.pathField?_contribution_eq_some_iff, Field.pathField?_contribution_eq_some_iff]
  have hnone : ({ field with lower := none, upper := none } : Field).periodFacets = [] := by
    cases hkind : field.kind <;> rfl
  rw [facetFields_eq_eraseDups, mentioned_eq, namesBefore, namesBehind, fields, hsearch]
  simp only [List.flatMap_append, List.flatMap_cons, List.append_assoc, List.filterMap_append,
    List.filterMap_cons, List.filter_append, List.filter_cons, List.map_append, hpath, hnone,
    List.nil_append]
  cases field.kind.countsField <;> rfl

/-- A period facet declares its ends, at its place, if it gives both. Its clause, between two scalar
bounds, lacks an end unless both are given and neither is empty. The two agree exactly if the empty
name is not declared. -/
theorem periodFacets_declared_iff (config : Config) (format : Format) (suppress : Bool)
    (hsearch : request.searchFields = before ++ field :: after)
    (hkind : field.kind = .periodRangeFacet) :
    (request.facetFields config =
        (request.namesBefore before ++ field.periodFacets ++
          request.namesBehind config after).eraseDups ∧
      ({ request with searchFields :=
          before ++ { field with lower := none, upper := none } :: after } : Request).facetFields
        config = (request.namesBefore before ++ request.namesBehind config after).eraseDups) ∧
    (∀ name ∈ field.periodFacets,
      some name ∈ ((request.leadingParams config format suppress).getAll "facet.field").map
        Text.Percent.decode?) ∧
    field.periodFacets =
      (match field.lower, field.upper with
        | some lower, some upper => [lower, upper]
        | _, _ => []) ∧
    ∀ value : Json, value.HasBounds →
      (({ field with value := value } : Field).periodClause ≠ .error .missingBoundField ↔
        ∃ lower upper, field.periodFacets = [lower, upper] ∧ lower ≠ "" ∧ upper ≠ "") ∧
      ((field.periodFacets ≠ [] ↔
          ({ field with value := value } : Field).periodClause ≠ .error .missingBoundField) ↔
        "" ∉ field.periodFacets) := by
  have hwith := facetFields_eq_split config hsearch
  refine ⟨⟨hwith, facetFields_without_ends config hsearch⟩, ?_, Field.periodFacets_of_kind_eq hkind, ?_⟩
  · intro name hname
    have hdeclared : name ∈ request.facetFields config := by
      rw [hwith, List.mem_eraseDups]
      exact List.mem_append_left _ (List.mem_append_right _ hname)
    rw [map_decode?_facetField]
    exact List.mem_map.mpr ⟨name, hdeclared, rfl⟩
  · intro value hvalue
    have hclause : ({ field with value := value } : Field).periodClause ≠ .error .missingBoundField ↔
        field.periodFacets ≠ [] ∧ "" ∉ field.periodFacets :=
      Field.periodClause_ne_missingBoundField_iff hkind hvalue
    refine ⟨?_, ?_⟩
    · rw [hclause, Field.periodFacets_ne_nil_iff hkind]
      constructor
      · rintro ⟨⟨lower, upper, hends⟩, hempty⟩
        rw [hends] at hempty
        simp only [List.mem_cons, List.not_mem_nil, or_false, not_or] at hempty
        exact ⟨lower, upper, hends, Ne.symm hempty.1, Ne.symm hempty.2⟩
      · rintro ⟨lower, upper, hends, hlower, hupper⟩
        refine ⟨⟨lower, upper, hends⟩, ?_⟩
        rw [hends]
        simp [hlower.symm, hupper.symm]
    · -- Where the empty name is declared, the clause still lacks an end.
      rw [hclause]
      by_cases hempty : "" ∈ field.periodFacets
      · have hdeclared : field.periodFacets ≠ [] := List.ne_nil_of_mem hempty
        simp [hempty, hdeclared]
      · simp [hempty]

/-- The low end of a period is a counted field as well; without a value the period is declared all
the same. -/
theorem periodFacets_declared_iff_shared_end :
    let start : Field := ⟨"start_i", .rangeFacet, .null, none, none, none⟩
    let period : Field := ⟨"period", .periodRangeFacet, .null, some "start_i", some "end_i", none⟩
    let request : Request := { ofRows 10 with searchFields := [start, period] }
    let window : Json := .list [.ofUInt64 5, .text "*", .null]
    request.searchFields = [start] ++ period :: [] ∧ period.kind = .periodRangeFacet ∧
      window.HasBounds ∧ "end_i" ∈ period.periodFacets ∧
      some "end_i" ∈ ((request.leadingParams .standard .json true).getAll "facet.field").map
        Text.Percent.decode? ∧
      ({ period with value := window } : Field).periodClause ≠ .error .missingBoundField := by
  intro start period request window
  have hwindow : window.HasBounds := ⟨_, _, _, rfl, trivial, trivial⟩
  have hends : "end_i" ∈ period.periodFacets := List.mem_cons_of_mem _ List.mem_cons_self
  have hsearch : request.searchFields = [start] ++ period :: [] := rfl
  have hkind : period.kind = .periodRangeFacet := rfl
  obtain ⟨-, hdeclared, -, hclause⟩ :=
    periodFacets_declared_iff .standard .json true hsearch hkind
  exact ⟨hsearch, hkind, hwindow, hends, hdeclared "end_i" hends,
    (hclause window hwindow).1.mpr ⟨"start_i", "end_i", rfl, by decide, by decide⟩⟩

/-- A period facet with an empty name for its low end is skipped for want of that end, and the empty
name is declared. -/
theorem empty_end_declared :
    let period : Field :=
      ⟨"period", .periodRangeFacet, .list [.ofUInt64 5, .ofUInt64 10], some "", some "end_i", none⟩
    let request : Request := { ofRows 10 with searchFields := [period] }
    period ∈ request.searchFields ∧ period.kind = .periodRangeFacet ∧ period.value.HasBounds ∧
      request.facetFields .standard = ["", "end_i"] ∧
      period.periodClause = .error .missingBoundField ∧
      ¬(period.periodFacets ≠ [] ↔ period.periodClause ≠ .error .missingBoundField) ∧
      some "" ∈ ((request.leadingParams .standard .json true).getAll "facet.field").map
        Text.Percent.decode? := by
  intro period request
  have hfacets : request.facetFields .standard = ["", "end_i"] := by decide
  have hskipped : period.periodClause = .error .missingBoundField := rfl
  refine ⟨List.mem_cons_self, rfl, ⟨_, _, _, rfl, trivial, trivial⟩, hfacets, hskipped, ?_, ?_⟩
  · intro hagree
    exact hagree.mp (List.cons_ne_nil _ _) hskipped
  · rw [map_decode?_facetField, hfacets]
    exact List.mem_cons_self

end Request

end FacetedSearch
