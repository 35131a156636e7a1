import FacetedSearch.Request
import FacetedSearch.Contribution

/-!
# Reports

A report says of every field of a request what became of it. `Entry.json` writes an entry as a flat
object: the name and the kind of the field, the outcome, and what belongs to the outcome.
-/

namespace FacetedSearch

namespace SkipReason

/-- The members that belong to a reason. -/
def members (reason : SkipReason) : List (String × Json) :=
  ("reason", .text reason.label) ::
    match reason with
    | .emptyValue => []
    | .tooFewBounds required found =>
      [("required", Json.ofUInt64 required), ("found", Json.ofUInt64 found)]
    | .shapeMismatch expected => [("expected", .text expected)]
    | .missingBoundField => []
    | .unrecognizedKind tag => [("kind", .text tag)]

def json (reason : SkipReason) : Json := .object reason.members

end SkipReason

namespace Contribution

/-- The members that belong to an outcome. -/
def members : Contribution → List (String × Json)
  | .filter clause => [("outcome", .text "filter"), ("filter", .text clause.text)]
  | .path facetField clause =>
    [("outcome", .text "path"), ("facetField", .text facetField), ("filter", .text clause.text)]
  | .skipped reason => ("outcome", .text "skipped") :: reason.members

def json (contribution : Contribution) : Json := .object contribution.members

end Contribution

/-- What became of one field. -/
structure Entry where
  name : String
  kind : Kind
  contribution : Contribution
  deriving DecidableEq

namespace Entry

def ofField (config : Config) (field : Field) : Entry :=
  ⟨field.name, field.kind, field.contribution config⟩

def json (entry : Entry) : Json :=
  .object (("field", .text entry.name) :: ("type", .text entry.kind.tag) ::
    entry.contribution.members)

end Entry

/-- The report on a request, in the order of its fields. -/
def Request.explain (request : Request) (config : Config) : List Entry :=
  request.fields.map (Entry.ofField config)

namespace Report

/-- The clauses of the fields that are not skipped. -/
def clauses (entries : List Entry) : List Clause :=
  entries.filterMap (·.contribution.clause?)

/-- A report and the query that it explains. -/
def json (entries : List Entry) (query : String) : Json :=
  (Json.object [
    ("fields", .list (entries.map Entry.json)),
    ("query", .text query)]).sorted

end Report

end FacetedSearch
