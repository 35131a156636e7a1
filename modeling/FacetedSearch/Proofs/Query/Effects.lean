import FacetedSearch.Proofs.Query.Declarations
import Mathlib.Data.List.Forall2

/-!
# What a query takes from a request

Most of what a request says has no part in its query. `Field.effect` is all that a query can take
from a search field: what the field contributes, the names that it declares, and the order of counts
that it asks for. From a filter a query takes the contribution only.

`Request.SameEffect` relates two requests that agree on this, on the order of the documents and on
the values that stand under the fixed keys. A query tells no two such requests apart
(`Request.SameEffect.query_eq`), so that two requests have one query can be shown field by field.
-/

namespace FacetedSearch

/-- Related elements that are taken for the same make the same list. -/
theorem map_eq_map_of_forall₂ {α β γ : Type} {R : α → β → Prop} {xs : List α} {ys : List β}
    (h : List.Forall₂ R xs ys) {f : α → γ} {g : β → γ} (hR : ∀ x y, R x y → f x = g y) :
    xs.map f = ys.map g := by
  induction h with
  | nil => rfl
  | cons hhead _ ih => rw [List.map_cons, List.map_cons, hR _ _ hhead, ih]

namespace Field

/-- The name of a field that is itself counted. -/
def countedName? (field : Field) : Option String :=
  if field.kind.countsField then some field.name else none

/-- The name of a field and the order of counts that it asks for. -/
def override? (field : Field) : Option (String × String) :=
  (field.facetSort.filter (· ≠ "")).map fun order => (field.name, order)

/-- What a query can take from a search field. -/
structure Effect where
  contribution : Contribution
  countedName? : Option String
  periodFacets : List String
  override? : Option (String × String)

def effect (config : Config) (field : Field) : Effect :=
  ⟨field.contribution config, field.countedName?, field.periodFacets, field.override?⟩

/-- An order of counts that is empty is none. -/
theorem override?_eq_none_iff {field : Field} :
    field.override? = none ↔ field.facetSort = none ∨ field.facetSort = some "" := by
  cases h : field.facetSort with
  | none => simp [override?, h]
  | some order => by_cases hempty : order = "" <;> simp [override?, h, hempty, Option.filter]

end Field

namespace Facets

/-- The orders of counts are asked for field by field. -/
theorem overrides_eq_filterMap (fields : List Field) :
    overrides fields = fields.filterMap Field.override? := by
  refine List.filterMap_congr fun field _ => ?_
  rw [Field.override?]
  cases field.facetSort with
  | none => rfl
  | some order => by_cases hempty : order = "" <;> simp [hempty, Option.filter]

/-- The names to be counted, taken field by field. -/
theorem countedNames_eq_filterMap (fields : List Field) :
    (fields.filter (·.kind.countsField)).map (·.name) = fields.filterMap Field.countedName? := by
  rw [← List.filterMap_eq_map, List.filterMap_filter]
  rfl

end Facets

namespace Request

variable {config : Config} {request other : Request}

/-- The clauses of a request are those of its contributions. -/
theorem clauses_explain (request : Request) (config : Config) :
    Report.clauses (request.explain config) =
      (request.searchFields.map (·.contribution config) ++
        request.filters.map (·.contribution config)).filterMap Contribution.clause? := by
  rw [Report.clauses, explain, fields, List.map_append, List.filterMap_append,
    List.filterMap_append, List.filterMap_map, List.filterMap_map, List.filterMap_map,
    List.filterMap_map]
  rfl

/-- Requests from which a query takes the same. -/
structure SameEffect (config : Config) (request other : Request) : Prop where
  searchFields : request.searchFields.map (Field.effect config) =
    other.searchFields.map (Field.effect config)
  filters : request.filters.map (·.contribution config) = other.filters.map (·.contribution config)
  sortKeys : request.sortKeys config = other.sortKeys config
  rows : request.rows = other.rows
  start : request.start = other.start
  mark : request.cursorParameters = other.cursorParameters
  facetLimit : request.effectiveFacetLimit = other.effectiveFacetLimit
  facetOrder : nonEmptyOr request.facetSort defaultFacetSort =
    nonEmptyOr other.facetSort defaultFacetSort

namespace SameEffect

/-- Requests of the same effect have the same contributions. -/
theorem contributions_eq (h : request.SameEffect config other) :
    request.searchFields.map (·.contribution config) =
      other.searchFields.map (·.contribution config) := by
  have heffects := congrArg (List.map Field.Effect.contribution) h.searchFields
  simpa only [List.map_map, Function.comp_def, Field.effect] using heffects

/-- Requests of the same effect have the same clauses. -/
theorem clauseParameters_eq (h : request.SameEffect config other) :
    request.clauseParameters config = other.clauseParameters config := by
  rw [clauseParameters, clauseParameters, clauses_explain, clauses_explain, h.contributions_eq,
    h.filters]

theorem sortParameter_eq (h : request.SameEffect config other) :
    request.sortParameter config = other.sortParameter config := by
  rw [sortParameter, sortParameter, h.sortKeys]

/-- The names that come up are declared by the effects of the search fields and by the contributions
of all fields. -/
theorem facetFields_eq (h : request.SameEffect config other) :
    request.facetFields config = other.facetFields config := by
  have hcounted := congrArg (List.filterMap Field.Effect.countedName?) h.searchFields
  have hperiods := congrArg (List.flatMap Field.Effect.periodFacets) h.searchFields
  have hsearchPath := congrArg (List.filterMap Contribution.pathField?) h.contributions_eq
  have hfilterPath := congrArg (List.filterMap Contribution.pathField?) h.filters
  simp only [List.filterMap_map, Function.comp_def, Field.effect] at hcounted
  simp only [List.flatMap_map, Field.effect] at hperiods
  simp only [List.filterMap_map, Function.comp_def] at hsearchPath hfilterPath
  rw [facetFields_eq_eraseDups, facetFields_eq_eraseDups, mentioned_eq, mentioned_eq,
    Facets.countedNames_eq_filterMap, Facets.countedNames_eq_filterMap, List.filterMap_append,
    List.filterMap_append, hcounted, hperiods, hsearchPath, hfilterPath]

theorem overrideParameters_eq (h : request.SameEffect config other) :
    request.overrideParameters = other.overrideParameters := by
  have hoverrides := congrArg (List.filterMap Field.Effect.override?) h.searchFields
  simp only [List.filterMap_map, Function.comp_def, Field.effect] at hoverrides
  rw [overrideParameters, overrideParameters, Facets.overrides_eq_filterMap,
    Facets.overrides_eq_filterMap, hoverrides]

/-- Requests of the same effect limit and order the counts the same. -/
theorem countParameters_eq (h : request.SameEffect config other) :
    request.countParameters = other.countParameters := by
  rw [countParameters, countParameters, h.facetLimit, h.facetOrder]

/-- A query tells two requests apart by what it takes from them only. -/
theorem query_eq (h : request.SameEffect config other) (format : Format) (suppress : Bool) :
    request.query config format suppress = other.query config format suppress := by
  have hstart : request.startParameters = other.startParameters := by
    rw [startParameters, startParameters, h.start]
  rw [query, query, params, params, parameters, parameters, h.clauseParameters_eq,
    h.sortParameter_eq, facetParameters, facetParameters, h.facetFields_eq,
    h.overrideParameters_eq, h.rows, hstart, h.mark, h.countParameters_eq]

end SameEffect

end Request

end FacetedSearch
