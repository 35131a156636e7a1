import FacetedSearch.Proofs.Query.Declarations
import FacetedSearch.Proofs.Query.Segments

/-!
# The order of the fields

The order in which the fields of a request are given does not matter for what its query says.
`Segments.Reorders` relates two queries that differ in the order within three segments only: the
clauses, the declared facets and the orders of counts. All other pairs are then the same and stand
at the same index, because the three segments keep their lengths.

`Request.segments_reorders` says that this is what a reordering of the search fields and of the
filters comes to. Clauses and orders of counts are made field by field. The declared facets are not:
which of two mentions of a name is kept depends on the order. But no name is kept twice, so two
lists of facets with the same names have the same length.
-/

namespace FacetedSearch

namespace Segments

variable {s t : Segments}

/-- The same segments but for the order within the clauses, the facets and the orders of counts. -/
structure Reorders (s t : Segments) : Prop where
  clauses : s.clauses.Perm t.clauses
  facets : s.facets.Perm t.facets
  overrides : s.overrides.Perm t.overrides
  others : t = { s with clauses := t.clauses, facets := t.facets, overrides := t.overrides }

/-- A reordering leaves the base query as it is. -/
theorem Reorders.base_eq (h : s.Reorders t) : s.base = t.base := by rw [h.others]

theorem Reorders.order_eq (h : s.Reorders t) : s.order = t.order := by rw [h.others]

theorem Reorders.closing_eq (h : s.Reorders t) : s.closing = t.closing := by rw [h.others]; rfl

/-- A reordering leaves the number of pairs as it is. -/
theorem Reorders.length_pairs (h : s.Reorders t) : s.pairs.length = t.pairs.length := by
  rw [Segments.length_pairs, Segments.length_pairs, h.clauses.length_eq, h.facets.length_eq,
    h.overrides.length_eq, h.closing_eq]

/-! ## Pairs at an index -/

/-- The base query is the first pair. -/
theorem getElem?_pairs_zero (s : Segments) : s.pairs[0]? = some ("q", s.base) := rfl

/-- The sort stands behind the clauses. -/
theorem getElem?_pairs_order (s : Segments) :
    s.pairs[1 + s.clauses.length]? = some ("sort", s.order) := by
  have hsplit : s.pairs = (("q", s.base) :: s.clauses.map (fun value => ("fq", value))) ++
      (("sort", s.order) :: (s.facets.map (fun name => ("facet.field", name)) ++
        s.overrides.map (fun override => ("f." ++ override.1 ++ ".facet.sort", override.2)) ++
        s.closing)) := by
    simp only [pairs, List.cons_append, List.append_assoc]
  have hfront : (("q", s.base) :: s.clauses.map (fun value => ("fq", value))).length =
      1 + s.clauses.length := by
    rw [List.length_cons, List.length_map, Nat.add_comm]
  rw [hsplit, List.getElem?_append_right (by omega), hfront, Nat.sub_self]
  rfl

/-- The closing pairs stand behind the three segments. -/
theorem getElem?_pairs_closing (s : Segments) (i : ℕ) :
    s.pairs[2 + s.clauses.length + s.facets.length + s.overrides.length + i]? = s.closing[i]? := by
  have hlength := s.length_pairs
  rw [pairs, List.length_append] at hlength
  rw [pairs, List.getElem?_append_right (by omega)]
  congr 1
  omega

/-- The pairs outside the three segments are the same at every index. -/
theorem Reorders.getElem?_pairs (h : s.Reorders t) {i : ℕ}
    (hi : i = 0 ∨ i = 1 + s.clauses.length ∨
      2 + s.clauses.length + s.facets.length + s.overrides.length ≤ i) :
    s.pairs[i]? = t.pairs[i]? := by
  rcases hi with rfl | rfl | hi
  · rw [getElem?_pairs_zero, getElem?_pairs_zero, h.base_eq]
  · rw [getElem?_pairs_order, h.clauses.length_eq, getElem?_pairs_order, h.order_eq]
  · obtain ⟨j, rfl⟩ := Nat.exists_eq_add_of_le hi
    rw [getElem?_pairs_closing, h.clauses.length_eq, h.facets.length_eq, h.overrides.length_eq,
      getElem?_pairs_closing, h.closing_eq]

end Segments

namespace Request

/-- The same request but for the order of the search fields and that of the filters. -/
structure Reorders (request reordered : Request) : Prop where
  searchFields : request.searchFields.Perm reordered.searchFields
  filters : request.filters.Perm reordered.filters
  others : reordered =
    { request with searchFields := reordered.searchFields, filters := reordered.filters }

variable {request reordered : Request}

/-- The declared facets of two requests with the same fields are the same, in some order. -/
theorem facetFields_perm (h : request.Reorders reordered) (config : Config) :
    (request.facetFields config).Perm (reordered.facetFields config) := by
  rw [List.perm_ext_iff_of_nodup (nodup_facetFields _ _) (nodup_facetFields _ _)]
  intro name
  rw [facetFields_eq_eraseDups, facetFields_eq_eraseDups, List.mem_eraseDups, List.mem_eraseDups,
    mentioned_eq, mentioned_eq]
  -- The names that come up are those of the same fields, group by group.
  have hcounted := (h.searchFields.filter (·.kind.countsField)).map (·.name)
  have hperiods := h.searchFields.flatMap_right Field.periodFacets
  have hpath := (h.searchFields.append h.filters).filterMap fun field =>
    (field.contribution config).pathField?
  exact ((hcounted.append hperiods).append hpath).mem_iff

/-- A request whose fields are given in another order has a query that says the same: it has as many
pairs, the clauses, the declared facets and the orders of counts are the same in another order, and
every other pair is the same at the same index. -/
theorem segments_reorders (h : request.Reorders reordered) (config : Config) (format : Format)
    (suppress : Bool) :
    let s := request.segments config format suppress
    let t := reordered.segments config format suppress
    (request.params config format suppress).pairs = s.pairs ∧
      (reordered.params config format suppress).pairs = t.pairs ∧
      s.Reorders t ∧ s.pairs.length = t.pairs.length ∧
      ∀ i, (i = 0 ∨ i = 1 + s.clauses.length ∨
          2 + s.clauses.length + s.facets.length + s.overrides.length ≤ i) →
        s.pairs[i]? = t.pairs[i]? := by
  intro s t
  have hothers : t = { s with clauses := t.clauses, facets := t.facets, overrides := t.overrides } := by
    show reordered.segments config format suppress = _
    -- Only the left side is to be rewritten: the right side reads the reordered segments off it.
    conv_lhs => rw [h.others]
    rfl
  have hreorders : s.Reorders t :=
    { clauses := (h.searchFields.append h.filters).filterMap (Field.written? config)
      facets := (facetFields_perm h config).map Text.Percent.encode
      overrides := (h.searchFields.filterMap _).map _
      others := hothers }
  refine ⟨pairs_params .., pairs_params .., hreorders, hreorders.length_pairs, ?_⟩
  intro i hi
  exact hreorders.getElem?_pairs hi

/-- With the two ends of a period and the path field declared by other fields as well, the reverse
of the search fields and of the filters declares the same names in another order. -/
theorem segments_reorders_reverse :
    let start : Field := ⟨"start_i", .rangeFacet, .list [.ofUInt64 1, .ofUInt64 2], none, none, none⟩
    let tags : Field := ⟨"tags_ss", .listFacet, .null, none, none, some "count"⟩
    let period : Field := ⟨"period", .periodRangeFacet, .null, some "start_i", some "path_s", none⟩
    let path : Field := ⟨"path_s", .text, .text "inbox", none, none, none⟩
    let words : Field := ⟨"topic_s", .text, .text "budget", none, none, none⟩
    let request : Request :=
      { ofRows 10 with searchFields := [start, period, tags], filters := [path, words] }
    let reordered : Request :=
      { request with searchFields := [tags, period, start], filters := [words, path] }
    request.Reorders reordered ∧
      request.facetFields .standard = ["start_i", "tags_ss", "path_s"] ∧
      reordered.facetFields .standard = ["tags_ss", "start_i", "path_s"] ∧
      (request.segments .standard .json true).Reorders (reordered.segments .standard .json true) ∧
      (request.segments .standard .json true).pairs[4]? =
        (reordered.segments .standard .json true).pairs[4]? := by
  intro start tags period path words request reordered
  have hreorders : request.Reorders reordered :=
    { searchFields := (List.reverse_perm [start, period, tags]).symm
      filters := (List.reverse_perm [path, words]).symm
      others := rfl }
  obtain ⟨-, -, hsegments, -, hindex⟩ := segments_reorders hreorders .standard .json true
  exact ⟨hreorders, by decide, by decide, hsegments, hindex 4 (.inr (.inl rfl))⟩

end Request

end FacetedSearch
