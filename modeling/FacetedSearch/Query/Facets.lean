import FacetedSearch.Contribution

/-!
# Counted fields

The engine counts the values of the fields that are declared to it as facets. A search field of a
facet kind declares itself, or the two fields that hold the ends of its period; a path field
declares itself when it makes a clause. Each name is declared once, where it first comes up.
-/

namespace FacetedSearch

/-- The kinds whose fields are themselves counted. -/
def Kind.countsField : Kind → Bool
  | .listFacet => true
  | .rangeFacet => true
  | .dateRangeFacet => true
  | _ => false

/-- The names that a period facet declares: both of its ends, if it has both. -/
def Field.periodFacets (field : Field) : List String :=
  match field.kind, field.lower, field.upper with
  | .periodRangeFacet, some lower, some upper => [lower, upper]
  | _, _, _ => []

namespace Facets

/-- The names with one more, unless it is among them. -/
def declare (declared : List String) (name : String) : List String :=
  if declared.contains name then declared else declared ++ [name]

/-- All names that come up: the fields counted themselves, the ends of periods, the path field. -/
def mentioned (searchFields : List Field) (contributions : List Contribution) : List String :=
  (searchFields.filter (·.kind.countsField)).map (·.name) ++
    searchFields.flatMap Field.periodFacets ++ contributions.filterMap Contribution.pathField?

/-- The fields that are declared, each once. -/
def declared (searchFields : List Field) (contributions : List Contribution) : List String :=
  (mentioned searchFields contributions).foldl declare []

/-- The search fields with an order of their own for their counts. -/
def overrides (searchFields : List Field) : List (String × String) :=
  searchFields.filterMap fun field =>
    match field.facetSort with
    | some order => if order = "" then none else some (field.name, order)
    | none => none

end Facets

end FacetedSearch
