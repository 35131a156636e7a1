import FacetedSearch.Proofs.Query.Leading

/-!
# The segments of a query

A query as it is written is a fixed sequence of groups, and every group has one kind of key.
`Segments` holds what stands in each group and nothing else; `Segments.pairs` puts the keys back. A
request that is changed in one place is compared with the one before segment by segment
(`pairs_params`): two requests whose segments are the same but for one give queries that are the
same but for that group.

Every field has its own part in the clauses (`Field.written?`), so the clauses of a list of fields
are those of its parts, one after the other.
-/

namespace FacetedSearch

/-- The values of a query as they are written, group by group. -/
structure Segments where
  base : String
  clauses : List String
  order : String
  facets : List String
  overrides : List (String × String)
  rows : String
  start : Option String
  mark : Option String
  facetLimit : String
  facetOrder : String
  format : List (String × String)
  deriving DecidableEq

namespace Segments

/-- The pairs from the number of rows on. -/
def closing (s : Segments) : List (String × String) :=
  ("rows", s.rows) :: s.start.toList.map (fun value => ("start", value)) ++
    s.mark.toList.map (fun value => ("cursorMark", value)) ++
    [("facet.limit", s.facetLimit), ("facet.sort", s.facetOrder), ("facet", "on")] ++ s.format

/-- The pairs of a query with these segments. -/
def pairs (s : Segments) : List (String × String) :=
  ("q", s.base) :: s.clauses.map (fun value => ("fq", value)) ++
    ("sort", s.order) :: s.facets.map (fun name => ("facet.field", name)) ++
    s.overrides.map (fun override => ("f." ++ override.1 ++ ".facet.sort", override.2)) ++ s.closing

/-- The pairs are the two fixed ones, the three segments and the closing ones. -/
theorem length_pairs (s : Segments) :
    s.pairs.length =
      2 + s.clauses.length + s.facets.length + s.overrides.length + s.closing.length := by
  simp only [pairs, List.length_append, List.length_cons, List.length_map]
  omega

end Segments

/-- The clause of a field as it is written in a query, if the field makes one. -/
def Field.written? (config : Config) (field : Field) : Option String :=
  (field.contribution config).clause?.map Clause.encoded

namespace Request

variable (request : Request) (config : Config) (format : Format) (suppress : Bool)

/-- What stands in each group of the query of a request. -/
def segments : Segments where
  base := Text.Percent.encode (config.base suppress)
  clauses := request.fields.filterMap (Field.written? config)
  order := Text.Percent.encode (request.sortParameter config).value
  facets := (request.facetFields config).map Text.Percent.encode
  overrides := (Facets.overrides request.searchFields).map fun override =>
    (Text.Percent.encode override.1, Text.Percent.encode override.2)
  rows := Text.Percent.encode (numberParameter "rows" request.rows.toNat).value
  start := request.start.map fun start =>
    Text.Percent.encode (numberParameter "start" start.toNat).value
  mark :=
    match request.paging with
    | .pages => none
    | .cursor mark _ => some (Text.Percent.encode (nonEmptyOr mark firstMark))
  facetLimit :=
    Text.Percent.encode (numberParameter "facet.limit" request.effectiveFacetLimit.toInt).value
  facetOrder := Text.Percent.encode (nonEmptyOr request.facetSort defaultFacetSort)
  format := format.entries.map fun entry =>
    (Text.Percent.encode entry.1, Text.Percent.encode entry.2)

/-! ## Each group as it is written -/

/-- Of the key for an order of counts, only the name is changed by the encoding. -/
theorem encode_overrideKey (name : String) :
    Text.Percent.encode ("f." ++ name ++ ".facet.sort") =
      "f." ++ Text.Percent.encode name ++ ".facet.sort" := by
  have hfront : Text.Percent.encode "f." = "f." := by decide
  have hbehind : Text.Percent.encode ".facet.sort" = ".facet.sort" := by decide
  rw [Text.Percent.encode_append, Text.Percent.encode_append, hfront, hbehind]

/-- The clauses of a report are written field by field. -/
theorem map_encoded_clauses :
    (Report.clauses (request.explain config)).map Clause.encoded =
      request.fields.filterMap (Field.written? config) := by
  rw [Report.clauses, explain, List.filterMap_map, List.map_filterMap]
  rfl

/-- The clauses are written in their segment, each under the key of clauses. -/
theorem pairs_clauseParameters :
    (Params.ofParameters (request.clauseParameters config)).pairs =
      (request.segments config format suppress).clauses.map (fun value => ("fq", value)) := by
  have hkey : Text.Percent.encode "fq" = "fq" := by decide
  rw [segments, ← map_encoded_clauses]
  simp only [Params.ofParameters, clauseParameters, List.map_map, Function.comp_def, hkey,
    Clause.encoded]

/-- The declared names are written in their segment, each under the key of declarations. -/
theorem pairs_facetParameters :
    (Params.ofParameters (request.facetParameters config)).pairs =
      (request.segments config format suppress).facets.map (fun name => ("facet.field", name)) := by
  have hkey : Text.Percent.encode "facet.field" = "facet.field" := by decide
  simp only [Params.ofParameters, facetParameters, segments, List.map_map, Function.comp_def, hkey]

/-- The orders of counts are written in their segment, each under a key with its name. -/
theorem pairs_overrideParameters :
    (Params.ofParameters request.overrideParameters).pairs =
      (request.segments config format suppress).overrides.map
        (fun override => ("f." ++ override.1 ++ ".facet.sort", override.2)) := by
  simp only [Params.ofParameters, overrideParameters, segments, List.map_map, Function.comp_def,
    encode_overrideKey]

/-- The other parameters are written as the closing pairs. -/
theorem pairs_closing :
    (Params.ofParameters (numberParameter "rows" request.rows.toNat :: request.startParameters ++
        request.cursorParameters ++ request.countParameters ++ formatParameters format)).pairs =
      (request.segments config format suppress).closing := by
  have hrows : Text.Percent.encode "rows" = "rows" := by decide
  have hstart : Text.Percent.encode "start" = "start" := by decide
  have hmark : Text.Percent.encode "cursorMark" = "cursorMark" := by decide
  have hlimit : Text.Percent.encode "facet.limit" = "facet.limit" := by decide
  have horder : Text.Percent.encode "facet.sort" = "facet.sort" := by decide
  have hfacet : Text.Percent.encode "facet" = "facet" := by decide
  have hon : Text.Percent.encode "on" = "on" := by decide
  simp only [Params.ofParameters, Segments.closing, segments, startParameters, cursorParameters,
    countParameters, formatParameters, numberParameter]
  -- The first row and the mark are there or not, independently of each other.
  cases request.start <;> cases request.paging <;>
    simp [hrows, hstart, hmark, hlimit, horder, hfacet, hon]

/-- A query is written segment by segment. -/
theorem pairs_params :
    (request.params config format suppress).pairs =
      (request.segments config format suppress).pairs := by
  have hq : Text.Percent.encode "q" = "q" := by decide
  have hsort : Text.Percent.encode "sort" = "sort" := by decide
  have hgroups : (request.params config format suppress).pairs =
      ("q", Text.Percent.encode (config.base suppress)) ::
        (Params.ofParameters (request.clauseParameters config)).pairs ++
      ("sort", Text.Percent.encode (request.sortParameter config).value) ::
        (Params.ofParameters (request.facetParameters config)).pairs ++
      (Params.ofParameters request.overrideParameters).pairs ++
      (Params.ofParameters (numberParameter "rows" request.rows.toNat :: request.startParameters ++
        request.cursorParameters ++ request.countParameters ++ formatParameters format)).pairs := by
    have hname : (request.sortParameter config).key = "sort" := rfl
    simp only [params, parameters, Params.ofParameters, List.map_append, List.map_cons, hq, hsort,
      hname, List.append_assoc, List.cons_append]
  rw [hgroups, request.pairs_clauseParameters config format suppress,
    request.pairs_facetParameters config format suppress,
    request.pairs_overrideParameters config format suppress,
    request.pairs_closing config format suppress]
  rfl

end Request

end FacetedSearch
