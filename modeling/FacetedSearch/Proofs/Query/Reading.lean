import FacetedSearch.Proofs.Query.Leading
import Mathlib

/-!
# Reading a query string

`QueryString.read?` reads a query string the way an engine does: it splits the text at every `&`,
each piece at its first `=`, and decodes both halves. Reading is the inverse of writing
(`read?_text_ofParameters`), because no encoding holds either separator.

`read?_query` is the result for a whole query: whatever texts a request, a configuration and a
format hold, the engine sees one fixed sequence of parameters, and the numbers in it are the ones
asked for.
-/

namespace FacetedSearch

open Parameter (valuesAt)

namespace QueryString

/-- A piece cut at its first `=`, both halves decoded. A piece without a `=` is no pair. -/
def readPair? (piece : List Char) : Option Parameter :=
  match piece.dropWhile (· != '=') with
  | [] => none
  | _ :: value => do
    let key ← Text.Percent.decode? (String.ofList (piece.takeWhile (· != '=')))
    let value ← Text.Percent.decode? (String.ofList value)
    some ⟨key, value⟩

/-- The pairs between the `&`s of a text. One piece that is no pair spoils the text. -/
def read? (text : String) : Option (List Parameter) :=
  (text.toList.splitOn '&').mapM readPair?

/-! ## Reading undoes writing -/

/-- A pair as it is written. -/
def pairText (p : Parameter) : String :=
  Text.Percent.encode p.key ++ "=" ++ Text.Percent.encode p.value

/-- The text of parameters is their pairs with a separator between them. -/
theorem text_ofParameters (parameters : List Parameter) :
    (Params.ofParameters parameters).text = String.intercalate "&" (parameters.map pairText) := by
  rw [Params.text, Params.ofParameters, List.map_map]
  rfl

/-- The first `=` of a written pair is the one between its halves. -/
theorem readPair?_pairText (p : Parameter) : readPair? (pairText p).toList = some p := by
  have hkey : ∀ c ∈ (Text.Percent.encode p.key).toList, (c != '=') = true := by
    intro c hc
    have hne : c ≠ '=' := fun h => Text.Percent.equals_not_mem_encode p.key (h ▸ hc)
    simpa using hne
  have hpair : (pairText p).toList =
      (Text.Percent.encode p.key).toList ++ '=' :: (Text.Percent.encode p.value).toList := by
    simp [pairText]
  rw [hpair, readPair?, List.dropWhile_append_of_pos hkey, List.takeWhile_append_of_pos hkey]
  simp

/-- A written pair does not hold the separator. -/
theorem ampersand_not_mem_pairText (p : Parameter) : '&' ∉ (pairText p).toList := by
  simp [pairText, Text.Percent.ampersand_not_mem_encode]

/-- The pieces between the `&`s of a written query string are its pairs. -/
theorem splitOn_text_ofParameters {parameters : List Parameter} (h : parameters ≠ []) :
    (Params.ofParameters parameters).text.toList.splitOn '&' =
      parameters.map fun p => (pairText p).toList := by
  have hpieces : ∀ piece ∈ parameters.map (fun p => (pairText p).toList), '&' ∉ piece := by
    intro piece hpiece
    obtain ⟨p, _, rfl⟩ := List.mem_map.mp hpiece
    exact ampersand_not_mem_pairText p
  rw [text_ofParameters, String.toList_intercalate, List.map_map]
  exact List.splitOn_intercalate '&' hpieces (by simpa using h)

/-- Parameters that are written and read again are the same, in number, order and content. -/
theorem read?_text_ofParameters {parameters : List Parameter} (h : parameters ≠ []) :
    read? (Params.ofParameters parameters).text = some parameters := by
  rw [read?, splitOn_text_ofParameters h]
  -- Only splitting needs a parameter; no text at all splits into one empty piece.
  clear h
  induction parameters with
  | nil => rfl
  | cons p parameters ih =>
    rw [List.map_cons, List.mapM_cons, readPair?_pairText, ih]
    rfl

end QueryString

/-! ## Numbers and defaults as they are written -/

/-- An integer is written in its usual decimal form. -/
theorem ofList_signedNumeral (n : Int) : String.ofList (signedNumeral n) = toString n := by
  cases n with
  | ofNat n =>
    rw [signedNumeral, if_neg (by simp)]
    rfl
  | negSucc n =>
    rw [signedNumeral, if_pos (by omega), ← List.singleton_append, String.ofList_append]
    rfl

/-- A natural number is written in decimal. -/
theorem ofList_signedNumeral_natCast (n : ℕ) : String.ofList (signedNumeral n) = toString n :=
  ofList_signedNumeral n

namespace Request

/-- No limit of counts and a limit of zero both mean that there is none. -/
theorem effectiveFacetLimit_eq_getD (request : Request) :
    request.effectiveFacetLimit = (request.facetLimit.filter (· ≠ 0)).getD (-1) := by
  rw [effectiveFacetLimit]
  cases request.facetLimit with
  | none => rfl
  | some limit => by_cases h : limit = 0 <;> simp [noFacetLimit, Option.filter, h]

/-! ## A whole query -/

variable (request : Request) (config : Config) (format : Format) (suppress : Bool)

/-- A parameter for a natural number has its decimal text. -/
theorem numberParameter_natCast (key : String) (n : ℕ) :
    numberParameter key n = ⟨key, toString n⟩ := by
  rw [numberParameter, ofList_signedNumeral_natCast]

/-- A start is sent in decimal if it is given. -/
theorem startParameters_eq_map :
    request.startParameters =
      request.start.toList.map (fun start => ⟨"start", toString start.toNat⟩) := by
  cases h : request.start <;> simp [startParameters, numberParameter_natCast, h]

/-- The limit and the order of counts with their defaults, and the switch for counting. -/
theorem countParameters_eq_getD :
    request.countParameters =
      [⟨"facet.limit", toString ((request.facetLimit.filter (· ≠ 0)).getD (-1)).toInt⟩,
        ⟨"facet.sort", (request.facetSort.filter (· ≠ "")).getD "index"⟩,
        ⟨"facet", "on"⟩] := by
  rw [countParameters, numberParameter, ofList_signedNumeral, effectiveFacetLimit_eq_getD,
    nonEmptyOr_eq_getD, defaultFacetSort]

/-- The order is written as the field and the direction of each key. -/
theorem sortParameter_eq_intercalate :
    request.sortParameter config =
      ⟨"sort", String.intercalate "," ((request.sortKeys config).map fun key =>
        key.field ++ " " ++ match key.direction with
          | .ascending => "asc"
          | .descending => "desc")⟩ :=
  rfl

/-- A query is read back as the parameters that it was written from. -/
theorem read?_query_eq_parameters :
    QueryString.read? (request.query config format suppress) =
      some (request.parameters config format suppress) :=
  QueryString.read?_text_ofParameters (by simp [parameters])

/-- The numbers of a query, read from the parameters in front of those of the format. Each stands
there once, the row to start from only if there is one. -/
theorem numbers_leadingParameters :
    (valuesAt "rows" (request.leadingParameters config suppress)).map String.toNat? =
        [some request.rows.toNat] ∧
      (valuesAt "start" (request.leadingParameters config suppress)).map String.toNat? =
        request.start.toList.map (fun start => some start.toNat) ∧
      (valuesAt "facet.limit" (request.leadingParameters config suppress)).map String.toInt? =
        [some ((request.facetLimit.filter (· ≠ 0)).getD (-1)).toInt] := by
  refine ⟨?_, ?_, ?_⟩
  · rw [request.valuesAt_leadingParameters config suppress (by decide)]
    simp [ofList_signedNumeral_natCast, countParameters_eq_getD, Nat.toNat?_repr]
  · rw [request.valuesAt_leadingParameters config suppress (by decide), startParameters_eq_map]
    simp [countParameters_eq_getD, Nat.toNat?_repr, Function.comp_def]
  · rw [request.valuesAt_leadingParameters config suppress (by decide)]
    simp [countParameters_eq_getD, Int.toInt?_repr]

/-- What an engine reads from a query string is this sequence of parameters and nothing else,
whatever characters the names, values, marks and orders in it hold. The numbers in front of the
format are read back as they were asked for. -/
theorem read?_query :
    QueryString.read? (request.query config format suppress) = some (
      [⟨"q", if suppress then config.baseQuery ++ " AND " ++ config.attachmentField ++ ":*"
        else config.baseQuery⟩] ++
      (Report.clauses (request.explain config)).map (fun clause => ⟨"fq", clause.text⟩) ++
      [⟨"sort", String.intercalate "," ((request.sortKeys config).map fun key =>
        key.field ++ " " ++ match key.direction with
          | .ascending => "asc"
          | .descending => "desc")⟩] ++
      (request.facetFields config).map (fun name => ⟨"facet.field", name⟩) ++
      (Facets.overrides request.searchFields).map
        (fun override => ⟨"f." ++ override.1 ++ ".facet.sort", override.2⟩) ++
      [⟨"rows", toString request.rows.toNat⟩] ++
      request.start.toList.map (fun start => ⟨"start", toString start.toNat⟩) ++
      (match request.paging with
        | .pages => []
        | .cursor mark _ => [⟨"cursorMark", (mark.filter (· ≠ "")).getD "*"⟩]) ++
      [⟨"facet.limit", toString ((request.facetLimit.filter (· ≠ 0)).getD (-1)).toInt⟩,
        ⟨"facet.sort", (request.facetSort.filter (· ≠ "")).getD "index"⟩,
        ⟨"facet", "on"⟩] ++
      format.entries.map (fun entry => ⟨entry.1, entry.2⟩)) ∧
    (QueryString.read? (request.query config format suppress)).map
        (fun parameters =>
          let leading := parameters.rdrop format.entries.length
          ((valuesAt "rows" leading).map String.toNat?,
            (valuesAt "start" leading).map String.toNat?,
            (valuesAt "facet.limit" leading).map String.toInt?)) =
      some ([some request.rows.toNat],
        request.start.toList.map (fun start => some start.toNat),
        [some ((request.facetLimit.filter (· ≠ 0)).getD (-1)).toInt]) := by
  rw [read?_query_eq_parameters]
  refine ⟨?_, ?_⟩
  · have hcursor := request.cursorParameters_eq_match
    rw [← countParameters_eq_getD, ← startParameters_eq_map, ← numberParameter_natCast,
      ← sortParameter_eq_intercalate, ← Config.base]
    cases hpaging : request.paging <;> rw [hpaging] at hcursor <;>
      simp [parameters, clauseParameters, sortParameter, facetParameters, overrideParameters,
        formatParameters, hcursor]
  · obtain ⟨hrows, hstart, hlimit⟩ := request.numbers_leadingParameters config suppress
    simp only [Option.map_some, rdrop_parameters, hrows, hstart, hlimit]

end Request

end FacetedSearch
