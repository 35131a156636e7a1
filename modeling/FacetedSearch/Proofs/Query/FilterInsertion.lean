import FacetedSearch.Proofs.Query.Segments
import FacetedSearch.Proofs.Query.Declarations

/-!
# One more filter

What a filter does to the query of a request it does by what it contributes, and nowhere else: a
clause behind those of the search fields, between those of its neighbours, and if the clause is on
the path field, that field among the declared ones. Kinds to be counted and orders of counts have
their effect on search fields only.

`Request.params_insert_filter` is the frame statement: the query with one more filter is the query
without it, changed in those two segments at most. That the path field comes last when it is new is
due to the order of declarations: clauses on the path field declare it behind all other names, so
declaring it once more is the last step (`Request.facetFields_insert_path`).
-/

namespace FacetedSearch

/-- What a field contributes does not depend on the order of counts that it asks for. -/
theorem Field.contribution_with_facetSort (field : Field) (order : Option String) (config : Config) :
    ({ field with facetSort := order } : Field).contribution config = field.contribution config :=
  rfl

namespace Request

variable (request : Request) (config : Config) (format : Format) (suppress : Bool)

/-- Filters have a part in two segments. -/
theorem segments_with_filters (filters : List Field) :
    ({ request with filters := filters } : Request).segments config format suppress =
      { request.segments config format suppress with
        clauses := (request.searchFields ++ filters).filterMap (Field.written? config)
        facets := (({ request with filters := filters } : Request).facetFields config).map
          Text.Percent.encode } :=
  rfl

variable {config} {g : Field} (before after : List Field)

/-- A filter that has no clause on the path field declares nothing. -/
theorem facetFields_insert_other (hpath : (g.contribution config).pathField? = none) :
    ({ request with filters := before ++ g :: after } : Request).facetFields config =
      ({ request with filters := before ++ after } : Request).facetFields config := by
  rw [facetFields_eq_eraseDups, facetFields_eq_eraseDups, mentioned_eq, mentioned_eq]
  simp only [List.filterMap_append, List.filterMap_cons, hpath]

/-- A filter with a clause on the path field declares that field, behind all that is declared. -/
theorem facetFields_insert_path {name : String}
    (hpath : (g.contribution config).pathField? = some name) :
    ({ request with filters := before ++ g :: after } : Request).facetFields config =
      Facets.declare (({ request with filters := before ++ after } : Request).facetFields config)
        config.pathField := by
  obtain ⟨clause, hclause⟩ := Contribution.pathField?_eq_some_iff.mp hpath
  have hany : ∃ field ∈ request.searchFields ++ (before ++ g :: after), ∃ facetField clause,
      field.contribution config = .path facetField clause :=
    ⟨g, by simp, name, clause, hclause⟩
  rw [facetFields_eq_eraseDups, facetFields_eq_eraseDups, mentioned_eq, mentioned_eq,
    eraseDups_append_filterMap_path, eraseDups_append_filterMap_path, if_pos hany,
    Facets.eraseDups_concat]
  -- If another field declares the path field, it is there already and stays where it is.
  split
  · rw [Facets.eraseDups_concat, Facets.declare_of_mem (Facets.mem_declare_self _ _)]
  · rw [List.append_nil]

variable (config g)

/-- The segments of a request with one more filter. -/
theorem segments_insert_filter :
    ({ request with filters := before ++ g :: after } : Request).segments config format suppress =
      { ({ request with filters := before ++ after } : Request).segments config format suppress with
        clauses := (request.searchFields ++ before).filterMap (Field.written? config) ++
          ((g.written? config).toList ++ after.filterMap (Field.written? config))
        facets := (({ request with filters := before ++ g :: after } : Request).facetFields
          config).map Text.Percent.encode } := by
  have hclauses : (request.searchFields ++ (before ++ g :: after)).filterMap (Field.written? config) =
      (request.searchFields ++ before).filterMap (Field.written? config) ++
        ((g.written? config).toList ++ after.filterMap (Field.written? config)) := by
    rw [← List.append_assoc, List.filterMap_append, List.filterMap_cons]
    cases g.written? config <;> rfl
  rw [segments_with_filters, hclauses]
  rfl

/-- Two filters that contribute the same have the same effect. -/
theorem pairs_insert_congr {other : Field}
    (h : other.contribution config = g.contribution config) :
    (({ request with filters := before ++ other :: after } : Request).params config format
        suppress).pairs =
      (({ request with filters := before ++ g :: after } : Request).params config format
        suppress).pairs := by
  have hwritten : other.written? config = g.written? config := by
    rw [Field.written?, Field.written?, h]
  have hfacets :
      ({ request with filters := before ++ other :: after } : Request).facetFields config =
        ({ request with filters := before ++ g :: after } : Request).facetFields config := by
    rw [facetFields_eq_eraseDups, facetFields_eq_eraseDups, mentioned_eq, mentioned_eq]
    simp only [List.filterMap_append, List.filterMap_cons, h]
  rw [pairs_params, pairs_params, segments_insert_filter, segments_insert_filter, hwritten, hfacets]

/-- A query with one more filter is the query without it, but for the contribution of the filter. A
skipped filter changes nothing. A clause stands behind those of the search fields, between those of
the neighbours of the filter. A clause on the path field also puts that field at the end of the
declared ones, unless it is declared already. An order of counts that a filter asks for has no
effect. -/
theorem params_insert_filter :
    let without : Request := { request with filters := before ++ after }
    let inserted : Request := { request with filters := before ++ g :: after }
    let s := without.segments config format suppress
    let front := (request.searchFields ++ before).filterMap (Field.written? config)
    let behind := after.filterMap (Field.written? config)
    (without.params config format suppress).pairs = s.pairs ∧ s.clauses = front ++ behind ∧
      (∀ reason, g.contribution config = .skipped reason →
        (inserted.params config format suppress).pairs = s.pairs) ∧
      (∀ clause, g.contribution config = .filter clause →
        (inserted.params config format suppress).pairs =
          { s with clauses := front ++ clause.encoded :: behind }.pairs) ∧
      (∀ facetField clause, g.contribution config = .path facetField clause →
        (config.pathField ∈ without.facetFields config →
          (inserted.params config format suppress).pairs =
            { s with clauses := front ++ clause.encoded :: behind }.pairs) ∧
        (config.pathField ∉ without.facetFields config →
          (inserted.params config format suppress).pairs =
            { s with
              clauses := front ++ clause.encoded :: behind
              facets := s.facets ++ [Text.Percent.encode config.pathField] }.pairs)) ∧
      ∀ order,
        (({ request with filters := before ++ { g with facetSort := order } :: after } :
          Request).params config format suppress).pairs =
            (inserted.params config format suppress).pairs := by
  intro without inserted s front behind
  have hclauses : s.clauses = front ++ behind := by
    show (request.searchFields ++ (before ++ after)).filterMap (Field.written? config) = _
    rw [← List.append_assoc, List.filterMap_append]
  have hinserted : inserted.segments config format suppress =
      { s with
        clauses := front ++ ((g.written? config).toList ++ behind)
        facets := (inserted.facetFields config).map Text.Percent.encode } :=
    request.segments_insert_filter config format suppress g before after
  refine ⟨pairs_params .., hclauses, ?_, ?_, ?_, ?_⟩
  · intro reason hskipped
    have hfacets : inserted.facetFields config = without.facetFields config :=
      request.facetFields_insert_other before after (by rw [hskipped]; rfl)
    have hwritten : g.written? config = none := by rw [Field.written?, hskipped]; rfl
    rw [pairs_params, hinserted, hfacets, hwritten, Option.toList_none, List.nil_append, ← hclauses]
    rfl
  · intro clause hfilter
    have hfacets : inserted.facetFields config = without.facetFields config :=
      request.facetFields_insert_other before after (by rw [hfilter]; rfl)
    have hwritten : g.written? config = some clause.encoded := by rw [Field.written?, hfilter]; rfl
    rw [pairs_params, hinserted, hfacets, hwritten]
    rfl
  · intro facetField clause hpath
    have hfacets : inserted.facetFields config =
        Facets.declare (without.facetFields config) config.pathField :=
      request.facetFields_insert_path before after (by rw [hpath]; rfl)
    have hwritten : g.written? config = some clause.encoded := by rw [Field.written?, hpath]; rfl
    rw [pairs_params, hinserted, hfacets, hwritten]
    refine ⟨fun hdeclared => ?_, fun hnew => ?_⟩
    · -- A name that is declared already is not declared again.
      rw [Facets.declare_of_mem hdeclared]
      rfl
    · rw [Facets.declare_of_not_mem hnew, List.map_append]
      rfl
  · intro order
    exact request.pairs_insert_congr config format suppress g before after
      (g.contribution_with_facetSort order config)

/-- A filter on the path field between two others declares it, behind a field that is counted. The
filters of the facet kinds declare nothing, whatever order of counts they ask for. -/
theorem params_insert_filter_path :
    let tags : Field := ⟨"tags_ss", .listFacet, .null, none, none, some "count"⟩
    let year : Field := ⟨"year_i", .rangeFacet, .list [.ofUInt64 1, .ofUInt64 2], none, none,
      some "count"⟩
    let path : Field := ⟨"path_s", .listFacet, .text "inbox", none, none, some "index"⟩
    let words : Field := ⟨"topic_s", .text, .text "budget", none, none, none⟩
    let request : Request := { ofRows 10 with searchFields := [tags] }
    let without : Request := { request with filters := [year, words] }
    let inserted : Request := { request with filters := [year, path, words] }
    let s := without.segments .standard .json true
    path.contribution .standard = .path "path_s" ⟨"path_s:inbox"⟩ ∧
      Config.standard.pathField ∉ without.facetFields .standard ∧
      (inserted.params .standard .json true).pairs =
        { s with
          clauses := ["year_i%3A%5B1%20TO%202%5D", "path_s%3Ainbox", "topic_s%3Abudget"]
          facets := ["tags_ss", "path_s"] }.pairs := by
  intro tags year path words request without inserted s
  have hpath : path.contribution .standard = .path "path_s" ⟨"path_s:inbox"⟩ := rfl
  have hnew : Config.standard.pathField ∉ without.facetFields .standard := by decide
  obtain ⟨-, -, -, -, hinserted, -⟩ :=
    request.params_insert_filter .standard .json true path [year] [words]
  exact ⟨hpath, hnew, ((hinserted "path_s" ⟨"path_s:inbox"⟩ hpath).2 hnew).trans (by decide)⟩

end Request

end FacetedSearch
