import FacetedSearch.Proofs.Query.Declarations
import FacetedSearch.Proofs.Query.Segments
import Mathlib.Data.List.Forall2

/-!
# The report and the query agree

A client is told of every field what became of it, and the engine is sent a query. `explain_agrees`
relates the two: the report has one entry for each field, in order, and the clauses of the query are
those of the entries that are not skipped, one by one. It also counts the parameters of the query.
-/

namespace FacetedSearch

/-- An entry that is not skipped is one that has a clause. -/
theorem Contribution.exists_clause_iff (contribution : Contribution) :
    (∃ clause, contribution.clause? = some clause) ↔ contribution.skipReason? = none := by
  cases contribution <;> simp [clause?, skipReason?]

/-- What an entry says and how its clause is written in a query: it is not skipped, and the pair has
the key of a clause and decodes to the clause. -/
def Entry.WrittenAs (entry : Entry) (pair : String × String) : Prop :=
  ∃ clause, entry.contribution.clause? = some clause ∧ pair.1 = "fq" ∧
    Text.Percent.decode? pair.2 = some clause.text

namespace Report

/-- The entries that are not skipped. -/
def kept (entries : List Entry) : List Entry :=
  entries.filter (·.contribution.skipReason?.isNone)

/-- The written clauses of a report are those of the entries that are not skipped, one by one. -/
theorem forall₂_writtenAs (entries : List Entry) :
    List.Forall₂ Entry.WrittenAs (kept entries)
      ((clauses entries).map fun clause => ("fq", clause.encoded)) := by
  induction entries with
  | nil => exact List.Forall₂.nil
  | cons entry entries ih =>
    -- A skipped entry adds to neither list, any other one to both.
    cases hclause : entry.contribution.clause? with
    | none =>
      have hskipped : entry.contribution.skipReason?.isNone = false := by
        cases hreason : entry.contribution.skipReason? with
        | none =>
          obtain ⟨clause, hsome⟩ := entry.contribution.exists_clause_iff.mpr hreason
          rw [hclause] at hsome
          cases hsome
        | some reason => rfl
      simpa [kept, clauses, hclause, hskipped] using ih
    | some clause =>
      have hkept : entry.contribution.skipReason?.isNone = true := by
        rw [entry.contribution.exists_clause_iff.mp ⟨clause, hclause⟩]
        rfl
      have hwritten : entry.WrittenAs ("fq", clause.encoded) :=
        ⟨clause, hclause, rfl, Text.Percent.decode?_encode clause.text⟩
      simpa [kept, clauses, hclause, hkept] using List.Forall₂.cons hwritten ih

/-- There are as many entries that are not skipped as clauses. -/
theorem length_kept (entries : List Entry) :
    (kept entries).length = (clauses entries).length := by
  simpa using (forall₂_writtenAs entries).length_eq

end Report

namespace Request

variable (request : Request) (config : Config) (format : Format) (suppress : Bool)

/-- The declared facets in front of the format, as an engine reads them. -/
theorem map_decode?_facetField :
    ((request.leadingParams config format suppress).getAll "facet.field").map
        Text.Percent.decode? = (request.facetFields config).map some := by
  rw [map_decode?_getAll_leadingParams request config format suppress (by decide),
    request.valuesAt_leadingParameters config suppress (by decide)]
  simp [countParameters, numberParameter, facetParameters]

/-- A query begins with the base query, the clauses and the sort keys. -/
theorem exists_pairs_params_eq :
    ∃ rest, (request.params config format suppress).pairs =
      ("q", Text.Percent.encode (config.base suppress)) ::
        (Report.clauses (request.explain config)).map (fun clause => ("fq", clause.encoded)) ++
        ("sort", Text.Percent.encode (request.sortParameter config).value) :: rest := by
  have hclauses : (Report.clauses (request.explain config)).map (fun clause => ("fq", clause.encoded)) =
      (request.segments config format suppress).clauses.map (fun value => ("fq", value)) := by
    rw [segments, ← map_encoded_clauses, List.map_map]
    rfl
  rw [pairs_params, hclauses, Segments.pairs]
  simp only [List.cons_append, List.append_assoc]
  exact ⟨_, rfl⟩

theorem length_startParameters :
    request.startParameters.length = if request.start.isSome then 1 else 0 := by
  cases h : request.start <;> simp [startParameters, h]

theorem length_cursorParameters :
    request.cursorParameters.length = if request.paging = .pages then 0 else 1 := by
  cases h : request.paging <;> simp [cursorParameters, h]

/-- The parameters are six, the clauses, the declared names, the orders of counts, the optional ones
and those of the format. -/
theorem length_parameters :
    (request.parameters config format suppress).length =
      6 + (Report.clauses (request.explain config)).length +
        (request.facetFields config).length + (Facets.overrides request.searchFields).length +
        (if request.start.isSome then 1 else 0) + (if request.paging = .pages then 0 else 1) +
        format.entries.length := by
  simp only [parameters, clauseParameters, facetParameters, overrideParameters, countParameters,
    formatParameters, List.length_append, List.length_cons, List.length_map, List.length_nil,
    length_startParameters, length_cursorParameters]
  omega

/-- The report has one entry for each search field and behind them for each filter, with the name
and the kind of that field. The query has behind its first parameter one clause for each entry that
is not skipped, in the same order, and then the sort keys. A clause on the path field names the
configured field, which is declared. -/
theorem explain_agrees :
    (request.explain config).map (fun entry => (entry.name, entry.kind, entry.contribution)) =
        (request.searchFields ++ request.filters).map
          (fun field => (field.name, field.kind, field.contribution config)) ∧
      (∃ base clausePairs order rest,
        (request.params config format suppress).pairs =
          ("q", base) :: clausePairs ++ ("sort", order) :: rest ∧
        List.Forall₂ Entry.WrittenAs
          ((request.explain config).filter (·.contribution.skipReason?.isNone)) clausePairs) ∧
      (∀ entry ∈ request.explain config, ∀ facetField clause,
        entry.contribution = .path facetField clause →
          facetField = config.pathField ∧
          some config.pathField ∈
            ((request.leadingParams config format suppress).getAll "facet.field").map
              Text.Percent.decode?) ∧
      (request.params config format suppress).size =
        6 + ((request.explain config).filter (·.contribution.skipReason?.isNone)).length +
          (request.facetFields config).length + (Facets.overrides request.searchFields).length +
          (if request.start.isSome then 1 else 0) + (if request.paging = .pages then 0 else 1) +
          format.entries.length := by
  refine ⟨?_, ?_, ?_, ?_⟩
  · rw [explain, fields, List.map_map]
    rfl
  · obtain ⟨rest, hpairs⟩ := request.exists_pairs_params_eq config format suppress
    exact ⟨_, _, _, rest, hpairs, Report.forall₂_writtenAs (request.explain config)⟩
  · intro entry hentry facetField clause hpath
    obtain ⟨hname, hdeclared⟩ := facetField_of_mem_explain hentry hpath
    refine ⟨hname, ?_⟩
    rw [map_decode?_facetField]
    exact List.mem_map.mpr ⟨config.pathField, hdeclared, rfl⟩
  · rw [params, Params.size_ofParameters, length_parameters, ← Report.length_kept, Report.kept]

/-- A filter on the path field declares it, although no search field asks for its values. -/
theorem explain_agrees_path_filter :
    let path : Field := ⟨"path_s", .text, .text "inbox", none, none, none⟩
    let request : Request := { ofRows 10 with
      searchFields := [⟨"topic_s", .text, .null, none, none, none⟩]
      filters := [path] }
    Entry.ofField .standard path ∈ request.explain .standard ∧
      (∃ clause, path.contribution .standard = .path "path_s" clause) ∧
      some "path_s" ∈ ((request.leadingParams .standard .json true).getAll "facet.field").map
        Text.Percent.decode? := by
  intro path request
  have hentry : Entry.ofField .standard path ∈ request.explain .standard :=
    List.mem_cons_of_mem _ List.mem_cons_self
  obtain ⟨clause, hpath⟩ : ∃ clause, path.contribution .standard = .path "path_s" clause :=
    ⟨_, rfl⟩
  have hdeclared := (request.explain_agrees .standard .json true).2.2.1 _ hentry "path_s" clause
    hpath
  exact ⟨hentry, ⟨clause, hpath⟩, hdeclared.2⟩

end Request

end FacetedSearch
