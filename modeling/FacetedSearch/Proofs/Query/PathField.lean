import FacetedSearch.Proofs.FieldGrammar
import FacetedSearch.Proofs.Query.Agreement
import FacetedSearch.Proofs.Query.Segments
import FacetedSearch.Proofs.Text.Escaping
import Mathlib.Data.List.Nodup

/-!
# The path field

A field on the path field with a value has two effects that are far apart: a clause in its place
among the clauses, and a declaration. The value in the clause is encoded twice, escaped and then
written in percent encoding; `Config.readPath?` undoes both and takes the name away in between.

`Request.path_surfaces` says that the declaration stands in the query once however many fields are
on the path field, that the value of each of them is read back from its clause, and that no field
with another name is treated so.
-/

namespace FacetedSearch

/-- The value in a written clause on the path field: decoded, without the name and the colon in
front, and without the backslashes that protect it. -/
def Config.readPath? (config : Config) (written : String) : Option String := do
  let text ← Text.Percent.decode? written
  let protectedValue ← (config.pathField ++ ":").toList.isPrefixOf? text.toList
  Text.Reserved.unescape? (String.ofList protectedValue)

/-- The encoded clause of the path field is read back as its value. -/
theorem Config.readPath?_encode (config : Config) (value : String) :
    config.readPath? (Text.Percent.encode (config.pathField ++ ":" ++ Text.Reserved.escape value)) =
      some value := by
  have hfront : (config.pathField ++ ":").toList.isPrefixOf?
      (config.pathField ++ ":" ++ Text.Reserved.escape value).toList =
        some (Text.Reserved.escape value).toList := by
    rw [List.isPrefixOf?_eq_some_iff_append_eq, ← String.toList_append]
  rw [readPath?, Text.Percent.decode?_encode, Option.bind_eq_bind, Option.bind_some, hfront,
    Option.bind_eq_bind, Option.bind_some, String.ofList_toList, Text.Reserved.unescape?_escape]

namespace Field

variable {field : Field} {config : Config}

/-- A field on the path field makes a clause exactly if it has a value. -/
theorem exists_pathClause_iff : (∃ clause, field.pathClause = .ok clause) ↔ field.value.IsFilled := by
  rw [Json.isFilled_iff_exists_text]
  constructor
  · rintro ⟨clause, hclause⟩
    obtain ⟨value, hvalue, hfilled, -⟩ := pathClause_eq_ok_iff.mp hclause
    exact ⟨value, hvalue, hfilled⟩
  · rintro ⟨value, hvalue, hfilled⟩
    exact ⟨⟨_⟩, pathClause_eq_ok_iff.mpr ⟨value, hvalue, hfilled, rfl⟩⟩

/-- The fields that declare the path field are those with its name and a value. -/
theorem pathField?_contribution_eq_some_iff {name : String} :
    (field.contribution config).pathField? = some name ↔
      name = config.pathField ∧ field.name = config.pathField ∧ field.value.IsFilled := by
  rw [contribution]
  -- The name decides before the kind is looked at; under another name no kind leads to a path.
  by_cases hname : field.name = config.pathField
  · rw [if_pos hname, ← exists_pathClause_iff]
    cases hclause : field.pathClause with
    | error reason => simp [Contribution.ofOutcome, Contribution.pathField?]
    | ok clause => simp [Contribution.ofOutcome, Contribution.pathField?, hname, eq_comm]
  · rw [if_neg hname]
    cases field.kindClause <;> simp [Contribution.ofOutcome, Contribution.pathField?, hname]

/-- The value of a field on the path field is read back from its written clause. -/
theorem exists_written?_of_path (hname : field.name = config.pathField)
    (hvalue : field.value.IsFilled) :
    ∃ value written, Json.Scalar field.value value ∧ field.written? config = some written ∧
      config.readPath? written = some value := by
  obtain ⟨value, hscalar, hfilled⟩ := Json.isFilled_iff_exists_text.mp hvalue
  have hclause : field.pathClause = .ok ⟨field.name ++ ":" ++ Text.Reserved.escape value⟩ :=
    pathClause_eq_ok_iff.mpr ⟨value, hscalar, hfilled, rfl⟩
  refine ⟨value, _, hscalar, ?_, config.readPath?_encode value⟩
  rw [written?, contribution, if_pos hname, hclause, hname]
  rfl

end Field

namespace Request

variable (request : Request) (config : Config) (format : Format) (suppress : Bool)

/-- What declares the path field: a field that has its name and a value, or a search field to be
counted, whether or not it has a value. -/
theorem pathField_mem_facetFields_iff :
    config.pathField ∈ request.facetFields config ↔
      (∃ field ∈ request.searchFields ++ request.filters,
        field.name = config.pathField ∧ field.value.IsFilled) ∨
      (∃ field ∈ request.searchFields, field.name = config.pathField ∧
        (field.kind = .listFacet ∨ field.kind = .rangeFacet ∨ field.kind = .dateRangeFacet)) ∨
      ∃ field ∈ request.searchFields, field.kind = .periodRangeFacet ∧ ∃ lower upper,
        field.lower = some lower ∧ field.upper = some upper ∧
          (lower = config.pathField ∨ upper = config.pathField) := by
  have hpath : config.pathField ∈ (request.searchFields ++ request.filters).filterMap
        (fun field => (field.contribution config).pathField?) ↔
      ∃ field ∈ request.searchFields ++ request.filters,
        field.name = config.pathField ∧ field.value.IsFilled := by
    simp only [List.mem_filterMap, Field.pathField?_contribution_eq_some_iff, true_and]
  rw [facetFields_eq_eraseDups, List.mem_eraseDups, mentioned_eq, List.mem_append, List.mem_append,
    mem_countedNames_iff, mem_periodEnds_iff, hpath]
  exact or_comm

/-- The path field is declared once if any field has its name and a value, and the value of each
such field is read back from the clause in its place. The path field is declared for no other reason
than that, a field to be counted or the end of a period to be counted. No other field is treated as
a path: the values in its clause stand as they are. -/
theorem path_surfaces :
    ((∃ field ∈ request.searchFields ++ request.filters,
        field.name = config.pathField ∧ field.value.IsFilled) →
      (((request.leadingParams config format suppress).getAll "facet.field").map
        Text.Percent.decode?).count (some config.pathField) = 1) ∧
    (∀ before field after, request.searchFields ++ request.filters = before ++ field :: after →
      field.name = config.pathField → field.value.IsFilled →
      ∃ value written, Json.Scalar field.value value ∧ config.readPath? written = some value ∧
        (request.params config format suppress).pairs =
          { request.segments config format suppress with
            clauses := before.filterMap (Field.written? config) ++
              written :: after.filterMap (Field.written? config) }.pairs) ∧
    (some config.pathField ∈ ((request.leadingParams config format suppress).getAll
        "facet.field").map Text.Percent.decode? ↔
      (∃ field ∈ request.searchFields ++ request.filters,
        field.name = config.pathField ∧ field.value.IsFilled) ∨
      (∃ field ∈ request.searchFields, field.name = config.pathField ∧
        (field.kind = .listFacet ∨ field.kind = .rangeFacet ∨ field.kind = .dateRangeFacet)) ∨
      ∃ field ∈ request.searchFields, field.kind = .periodRangeFacet ∧ ∃ lower upper,
        field.lower = some lower ∧ field.upper = some upper ∧
          (lower = config.pathField ∨ upper = config.pathField)) ∧
    ∀ field : Field, field.name ≠ config.pathField →
      (∀ facetField clause, field.contribution config ≠ .path facetField clause) ∧
      ∀ clause, (field.contribution config).clause? = some clause →
        field.MakesByKind clause.text := by
  have hmem : some config.pathField ∈ (request.facetFields config).map some ↔
      config.pathField ∈ request.facetFields config := by simp
  rw [map_decode?_facetField, hmem, pathField_mem_facetFields_iff]
  refine ⟨?_, ?_, Iff.rfl, ?_⟩
  · intro hfield
    have hdeclared := (request.pathField_mem_facetFields_iff config).mpr (.inl hfield)
    -- No name is declared twice, however many fields ask for it.
    have hnodup : ((request.facetFields config).map some).Nodup :=
      (request.nodup_facetFields config).map fun _ _ => Option.some.inj
    exact List.count_eq_one_of_mem hnodup (hmem.mpr hdeclared)
  · intro before field after hsplit hname hvalue
    obtain ⟨value, written, hscalar, hwritten, hread⟩ := Field.exists_written?_of_path hname hvalue
    refine ⟨value, written, hscalar, hread, ?_⟩
    have hclauses : (request.segments config format suppress).clauses =
        before.filterMap (Field.written? config) ++
          written :: after.filterMap (Field.written? config) := by
      rw [segments, fields, hsplit, List.filterMap_append, List.filterMap_cons_some hwritten]
    rw [pairs_params, ← hclauses]
  · intro field hname
    refine ⟨fun facetField clause hpath =>
      hname (Field.name_of_contribution_eq_path hpath).1, fun clause hclause => ?_⟩
    have hmakes := Field.clause?_contribution_eq_some_iff.mp hclause
    rwa [Field.Makes, if_neg hname] at hmakes

/-- Two fields on the path field, which is the end of a period as well. A path with reserved
characters is read back from its clause, behind that of a text in which they stand as they are. -/
theorem path_surfaces_reserved :
    let period : Field := ⟨"period", .periodRangeFacet, .null, some "path_s", some "end_i", none⟩
    let words : Field := ⟨"topic_s", .text, .text "a b", none, none, none⟩
    let path : Field := ⟨"path_s", .listFacet, .text "a b\\(ü)&%", none, none, none⟩
    let flag : Field := ⟨"path_s", .range, .boolean true, none, none, none⟩
    let request : Request :=
      { ofRows 10 with searchFields := [period, words, path], filters := [flag] }
    request.searchFields ++ request.filters = [period, words] ++ path :: [flag] ∧
      path.name = Config.standard.pathField ∧ path.value.IsFilled ∧
      (((request.leadingParams .standard .json true).getAll "facet.field").map
        Text.Percent.decode?).count (some "path_s") = 1 ∧
      (∃ written, Config.standard.readPath? written = some "a b\\(ü)&%" ∧
        (request.params .standard .json true).pairs =
          { request.segments .standard .json true with
            clauses := [period, words].filterMap (Field.written? .standard) ++
              written :: [flag].filterMap (Field.written? .standard) }.pairs) ∧
      words.name ≠ Config.standard.pathField ∧ words.MakesByKind "topic_s:a b" := by
  intro period words path flag request
  have hvalue : path.value.IsFilled := by simp [path, Json.IsFilled]
  obtain ⟨hcount, hplace, -, hother⟩ := request.path_surfaces .standard .json true
  obtain ⟨value, written, hscalar, hread, hpairs⟩ := hplace [period, words] path [flag] rfl rfl hvalue
  have hwords : words.name ≠ Config.standard.pathField := by decide
  refine ⟨rfl, rfl, hvalue, hcount ⟨path, by simp [request], rfl, hvalue⟩, ⟨written, ?_, hpairs⟩,
    hwords, (hother words hwords).2 ⟨"topic_s:a b"⟩ rfl⟩
  cases hscalar
  exact hread

end Request

end FacetedSearch
