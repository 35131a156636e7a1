import FacetedSearch.Proofs.Query.Effects
import FacetedSearch.Proofs.Query.Segments

/-!
# Search fields that are skipped

A search field that is skipped makes no clause, and where its kind is not to be counted and it asks
for no order of counts, its query has no trace of it. `Request.query_of_erases` says so of any
number of such fields at any positions. A skipped field of another sort has a part in two segments
only: it can declare itself or the ends of its period, and it can ask for an order of counts.

Both come from what one field does (`Request.segments_erase_skipped`): what is erased from a list is
erased field by field, and each step leaves the segments as they are (`Request.segments_of_erases`).
-/

namespace FacetedSearch

/-! ## Lists with some elements erased -/

/-- The second list is the first one without some of the elements that `p` holds of, whatever their
positions. -/
inductive Erases {α : Type} (p : α → Prop) : List α → List α → Prop
  | nil : Erases p [] []
  | keep (x : α) {xs kept : List α} (h : Erases p xs kept) : Erases p (x :: xs) (x :: kept)
  | erase {x : α} (hx : p x) {xs kept : List α} (h : Erases p xs kept) : Erases p (x :: xs) kept

/-- What is erased for making nothing is not missed. -/
theorem Erases.filterMap_eq {α β : Type} {p : α → Prop} {xs kept : List α} (h : Erases p xs kept)
    {f : α → Option β} (hf : ∀ x, p x → f x = none) : kept.filterMap f = xs.filterMap f := by
  induction h with
  | nil => rfl
  | keep x _ ih => rw [List.filterMap_cons, List.filterMap_cons, ih]
  | erase hx _ ih => rw [ih, List.filterMap_cons_none (hf _ hx)]

namespace Field

/-- The order of counts that a search field asks for, as it is written in a query. -/
def writtenOverride? (field : Field) : Option (String × String) :=
  field.override?.map fun override =>
    (Text.Percent.encode override.1, Text.Percent.encode override.2)

/-- A field that is skipped for whatever reason, of a kind that is not to be counted, and without an
order of counts. -/
structure IsTraceless (config : Config) (field : Field) : Prop where
  skipped : ∃ reason, field.contribution config = .skipped reason
  kind : field.kind = .text ∨ field.kind = .range ∨ field.kind = .periodRange ∨
    ∃ tag, field.kind = .unrecognized tag
  facetSort : field.facetSort = none ∨ field.facetSort = some ""

/-- The names that a search field declares, whatever it contributes: its own, if it is to be
counted, or both ends of a period to be counted. -/
def Declares (field : Field) (name : String) : Prop :=
  field.name = name ∧
      (field.kind = .listFacet ∨ field.kind = .rangeFacet ∨ field.kind = .dateRangeFacet) ∨
    field.kind = .periodRangeFacet ∧ ∃ lower upper,
      field.lower = some lower ∧ field.upper = some upper ∧ (lower = name ∨ upper = name)

variable {config : Config} {field : Field}

/-- A skipped field is written nowhere among the clauses. -/
theorem written?_of_skipped (h : ∃ reason, field.contribution config = .skipped reason) :
    field.written? config = none := by
  obtain ⟨reason, hskipped⟩ := h
  rw [written?, hskipped]
  rfl

/-- A skipped field does not declare the path field. -/
theorem pathField?_of_skipped (h : ∃ reason, field.contribution config = .skipped reason) :
    (field.contribution config).pathField? = none := by
  obtain ⟨reason, hskipped⟩ := h
  rw [hskipped]
  rfl

/-- A traceless field does not declare its own name. -/
theorem IsTraceless.countsField (h : field.IsTraceless config) :
    field.kind.countsField = false := by
  rcases h.kind with hkind | hkind | hkind | ⟨tag, hkind⟩ <;> rw [hkind] <;> rfl

/-- A traceless field does not declare the ends of a period. -/
theorem IsTraceless.kind_ne (h : field.IsTraceless config) : field.kind ≠ .periodRangeFacet := by
  rcases h.kind with hkind | hkind | hkind | ⟨tag, hkind⟩ <;> simp [hkind]

/-- A traceless field writes no order of counts. -/
theorem IsTraceless.writtenOverride? (h : field.IsTraceless config) :
    field.writtenOverride? = none := by
  rw [Field.writtenOverride?, override?_eq_none_iff.mpr h.facetSort]
  rfl

end Field

namespace Request

variable (request : Request) (config : Config) (format : Format) (suppress : Bool)

/-- The orders of counts of a request are written field by field. -/
theorem map_encode_overrides (fields : List Field) :
    (Facets.overrides fields).map (fun override =>
        (Text.Percent.encode override.1, Text.Percent.encode override.2)) =
      fields.filterMap Field.writtenOverride? := by
  rw [Facets.overrides_eq_filterMap, List.map_filterMap]
  rfl

/-- Search fields have a part in three segments. -/
theorem segments_with_searchFields (fields : List Field) :
    ({ request with searchFields := fields } : Request).segments config format suppress =
      { request.segments config format suppress with
        clauses := (fields ++ request.filters).filterMap (Field.written? config)
        facets := (({ request with searchFields := fields } : Request).facetFields config).map
          Text.Percent.encode
        overrides := fields.filterMap Field.writtenOverride? } := by
  rw [← map_encode_overrides]
  rfl

/-- The text of a query is that of its segments. -/
theorem query_eq_text_segments :
    request.query config format suppress =
      (Params.mk (request.segments config format suppress).pairs).text := by
  rw [query, ← pairs_params]

/-- The declared facets are the names that the search fields declare, and the path field if any
field makes a clause on it. -/
theorem mem_facetFields_iff (name : String) :
    name ∈ request.facetFields config ↔
      (∃ field ∈ request.searchFields, field.Declares name) ∨
        ∃ field ∈ request.searchFields ++ request.filters,
          (field.contribution config).pathField? = some name := by
  rw [facetFields_eq_eraseDups, List.mem_eraseDups, mentioned_eq, List.mem_append, List.mem_append,
    mem_countedNames_iff, mem_periodEnds_iff, List.mem_filterMap]
  simp only [Field.Declares, and_or_left, exists_or]

variable {config} {field : Field} (before after : List Field)

/-- A skipped search field has a part in the declared facets and in the orders of counts only. -/
theorem segments_erase_skipped (h : ∃ reason, field.contribution config = .skipped reason) :
    ({ request with searchFields := before ++ after } : Request).segments config format suppress =
      { ({ request with searchFields := before ++ field :: after } : Request).segments config format
          suppress with
        facets :=
          (({ request with searchFields := before ++ after } : Request).facetFields config).map
            Text.Percent.encode
        overrides := (before ++ after).filterMap Field.writtenOverride? } := by
  have hclauses : (before ++ after ++ request.filters).filterMap (Field.written? config) =
      (before ++ field :: after ++ request.filters).filterMap (Field.written? config) := by
    simp only [List.filterMap_append, List.filterMap_cons_none (Field.written?_of_skipped h)]
  rw [request.segments_with_searchFields config format suppress (before ++ after), hclauses,
    request.segments_with_searchFields config format suppress (before ++ field :: after)]

/-- Without a skipped search field, what is declared lacks at most the names that the field
declares. -/
theorem mem_facetFields_erase_skipped (h : ∃ reason, field.contribution config = .skipped reason)
    (name : String) :
    name ∈ ({ request with searchFields := before ++ field :: after } : Request).facetFields
          config ↔
      name ∈ ({ request with searchFields := before ++ after } : Request).facetFields config ∨
        field.Declares name := by
  have hsearch : (∃ other ∈ before ++ field :: after, other.Declares name) ↔
      (∃ other ∈ before ++ after, other.Declares name) ∨ field.Declares name := by
    simp only [List.mem_append, List.mem_cons, or_and_right, exists_or, exists_eq_left]
    rw [or_assoc, or_comm (a := field.Declares name)]
  have hpath : (∃ other ∈ before ++ field :: after ++ request.filters,
        (other.contribution config).pathField? = some name) ↔
      ∃ other ∈ before ++ after ++ request.filters,
        (other.contribution config).pathField? = some name := by
    simp only [List.mem_append, List.mem_cons, or_and_right, exists_or, exists_eq_left,
      Field.pathField?_of_skipped h, reduceCtorEq, false_or]
  rw [mem_facetFields_iff, mem_facetFields_iff, hsearch, hpath, or_right_comm]

/-- A traceless search field leaves all segments as they are without it. -/
theorem segments_erase_traceless (h : field.IsTraceless config) :
    ({ request with searchFields := before ++ after } : Request).segments config format suppress =
      ({ request with searchFields := before ++ field :: after } : Request).segments config format
        suppress := by
  have hfacets :
      ({ request with searchFields := before ++ field :: after } : Request).facetFields config =
        ({ request with searchFields := before ++ after } : Request).facetFields config :=
    facetFields_append_cons h.countsField h.kind_ne (Field.pathField?_of_skipped h.skipped)
  have hoverrides : (before ++ after).filterMap Field.writtenOverride? =
      (before ++ field :: after).filterMap Field.writtenOverride? := by
    simp only [List.filterMap_append, List.filterMap_cons_none h.writtenOverride?]
  rw [segments_erase_skipped request format suppress before after h.skipped, ← hfacets, hoverrides,
    request.segments_with_searchFields config format suppress (before ++ field :: after)]

/-- However many traceless search fields are erased, all segments stay as they are. -/
theorem segments_of_erases {fields kept : List Field}
    (h : Erases (Field.IsTraceless config) fields kept) (before : List Field) :
    ({ request with searchFields := before ++ kept } : Request).segments config format suppress =
      ({ request with searchFields := before ++ fields } : Request).segments config format
        suppress := by
  induction h generalizing before with
  | nil => rfl
  | keep field _ ih =>
    -- A field that is kept goes over to those in front.
    have hkept := ih (before ++ [field])
    simpa only [List.append_assoc, List.singleton_append] using hkept
  | erase hfield _ ih =>
    rw [ih before, segments_erase_traceless request format suppress before _ hfield]

variable (config)

/-- Traceless search fields can be erased, any number of them at any positions, and the query is the
same text. A single skipped search field of another sort has no part in a query but for what it
declares and the order of counts that it asks for: without it the declared facets lack at most its
own name or the ends of its period, and every other parameter is as it was. -/
theorem query_of_erases :
    (∀ kept, Erases (Field.IsTraceless config) request.searchFields kept →
      ({ request with searchFields := kept } : Request).query config format suppress =
        request.query config format suppress) ∧
    ∀ before field after, request.searchFields = before ++ field :: after →
      (∃ reason, field.contribution config = .skipped reason) →
      let erased : Request := { request with searchFields := before ++ after }
      let s := request.segments config format suppress
      (request.params config format suppress).pairs = s.pairs ∧
        s.facets = (request.facetFields config).map Text.Percent.encode ∧
        s.overrides = before.filterMap Field.writtenOverride? ++
          (field.writtenOverride?.toList ++ after.filterMap Field.writtenOverride?) ∧
        (erased.params config format suppress).pairs =
          { s with
            facets := (erased.facetFields config).map Text.Percent.encode
            overrides := before.filterMap Field.writtenOverride? ++
              after.filterMap Field.writtenOverride? }.pairs ∧
        ∀ name, name ∈ request.facetFields config ↔
          name ∈ erased.facetFields config ∨ field.Declares name := by
  refine ⟨?_, ?_⟩
  · intro kept herases
    have hsegments := request.segments_of_erases format suppress herases []
    rw [query_eq_text_segments, query_eq_text_segments]
    exact congrArg (fun s => (Params.mk (Segments.pairs s)).text) hsegments
  · intro before field after hsearch hskipped erased s
    -- The request is the one that the step lemmas speak of.
    have hrequest : request = { request with searchFields := before ++ field :: after } := by
      rw [← hsearch]
    have hoverrides : s.overrides = before.filterMap Field.writtenOverride? ++
        (field.writtenOverride?.toList ++ after.filterMap Field.writtenOverride?) := by
      show (request.segments config format suppress).overrides = _
      rw [segments, map_encode_overrides, hsearch, List.filterMap_append, List.filterMap_cons]
      cases field.writtenOverride? <;> rfl
    refine ⟨pairs_params .., rfl, hoverrides, ?_, ?_⟩
    · rw [pairs_params, request.segments_erase_skipped format suppress before after hskipped,
        ← hrequest, List.filterMap_append]
    · intro name
      conv_lhs => rw [hrequest]
      exact request.mem_facetFields_erase_skipped before after hskipped name

/-- An empty path, a range on a counted field and a field without a kind on any field are erased
around a field that is kept. Without its list the counted field is skipped as well; it takes its
declaration and its order of counts along. -/
theorem query_of_erases_around_kept :
    let path : Field := ⟨"path_s", .text, .text "", none, none, some ""⟩
    let tags : Field := ⟨"tags_ss", .listFacet, .null, none, none, some "count"⟩
    let range : Field := ⟨"tags_ss", .range, .list [.ofUInt64 1], none, none, none⟩
    let words : Field := ⟨"topic_s", .text, .text "budget", none, none, none⟩
    let any : Field := ⟨"*", .unrecognized "", .text "x", none, none, none⟩
    let request : Request := { ofRows 10 with searchFields := [path, tags, range, words, any] }
    let s := request.segments .standard .json true
    Erases (Field.IsTraceless .standard) request.searchFields [tags, words] ∧
      ({ request with searchFields := [tags, words] } : Request).query .standard .json true =
        request.query .standard .json true ∧
      (∃ reason, tags.contribution .standard = .skipped reason) ∧
      (({ request with searchFields := [path, range, words, any] } : Request).params .standard .json
        true).pairs = { s with facets := [], overrides := [] }.pairs := by
  intro path tags range words any request s
  have hpath : path.IsTraceless .standard := ⟨⟨_, rfl⟩, .inl rfl, .inr rfl⟩
  have hrange : range.IsTraceless .standard := ⟨⟨_, rfl⟩, .inr (.inl rfl), .inl rfl⟩
  have hany : any.IsTraceless .standard :=
    ⟨⟨_, rfl⟩, .inr (.inr (.inr ⟨"", rfl⟩)), .inl rfl⟩
  have herases : Erases (Field.IsTraceless .standard) request.searchFields [tags, words] :=
    .erase hpath (.keep tags (.erase hrange (.keep words (.erase hany .nil))))
  have htags : ∃ reason, tags.contribution .standard = .skipped reason := ⟨_, rfl⟩
  obtain ⟨hmany, hone⟩ := request.query_of_erases .standard .json true
  obtain ⟨-, -, -, herased, -⟩ := hone [path] tags [range, words, any] rfl htags
  exact ⟨herases, hmany _ herases, htags, herased.trans (by decide)⟩

end Request

end FacetedSearch
