import FacetedSearch.Proofs.Entries
import FacetedSearch.Proofs.Query.Effects
import FacetedSearch.Proofs.Query.Segments
import Mathlib.Data.List.Count
import Mathlib.Data.List.Nodup

/-!
# How often a key occurs

A query has one clause under `fq` for each field that makes one, and one name under `facet.field`
for each declared facet. Its other keys are fixed ones, each written once, those of the format, each
written once, and the keys of the orders of counts. These are made from the names of search fields,
and keys made from different names differ from each other and from the fixed ones
(`overrideKey_injective`, `Segments.overrideKey_not_mem_fixedKeys`).

But two search fields may have one name. The name is declared once all the same; its order of counts
is written once for each search field that asks for one (`Request.count_overrideKeys`). Unless the
format gives a key that stands in front of it, no other key is written twice (`Request.count_keys`).
-/

namespace FacetedSearch

/-- The key under which the order of counts for a name is written. -/
def overrideKey (name : String) : String := "f." ++ Text.Percent.encode name ++ ".facet.sort"

/-- Different names have different keys for their orders of counts. -/
theorem overrideKey_injective : Function.Injective overrideKey := by
  intro name other h
  have hchars := congrArg String.toList h
  simp only [overrideKey, String.toList_append, List.append_assoc, List.append_cancel_left_eq,
    List.append_cancel_right_eq, String.toList_inj] at hchars
  exact Text.Percent.encode_injective hchars

namespace Segments

/-- The keys that are neither repeated nor made from names. -/
def fixedKeys (s : Segments) : List String :=
  ["q", "sort", "rows"] ++ (if s.start.isSome then ["start"] else []) ++
    (if s.mark.isSome then ["cursorMark"] else []) ++ ["facet.limit", "facet.sort", "facet"]

/-- The fixed keys are among eight given ones, in their order. -/
theorem fixedKeys_sublist (s : Segments) :
    s.fixedKeys.Sublist
      ["q", "sort", "rows", "start", "cursorMark", "facet.limit", "facet.sort", "facet"] := by
  rw [fixedKeys]
  cases s.start.isSome <;> cases s.mark.isSome <;> decide

/-- No fixed key occurs twice. -/
theorem count_fixedKeys_le_one (s : Segments) (key : String) : s.fixedKeys.count key ≤ 1 :=
  List.nodup_iff_count_le_one.mp (s.fixedKeys_sublist.nodup (by decide)) key

/-- The key for an order of counts is none of the fixed ones. -/
theorem overrideKey_not_mem_fixedKeys (s : Segments) (name : String) :
    overrideKey name ∉ s.fixedKeys := by
  intro hmem
  have hfixed : ∀ key ∈
      ["q", "sort", "rows", "start", "cursorMark", "facet.limit", "facet.sort", "facet"],
      ['f', '.'].isPrefixOf key.toList = false := by decide
  have hprefix := hfixed _ (s.fixedKeys_sublist.subset hmem)
  exact Request.overrideKey_ne hprefix (Text.Percent.encode name) rfl

/-- A key that is not repeated occurs among the fixed keys, the keys of orders of counts and those
of the format. -/
theorem count_keys_pairs (s : Segments) {key : String} (hclause : key ≠ "fq")
    (hfacet : key ≠ "facet.field") :
    (s.pairs.map Prod.fst).count key =
      s.fixedKeys.count key +
        ((s.overrides.map fun override => "f." ++ override.1 ++ ".facet.sort").count key +
          (s.format.map Prod.fst).count key) := by
  have hclauses : (s.clauses.map fun _ => "fq").count key = 0 := by
    rw [List.count_eq_zero]
    simp [hclause]
  have hfacets : (s.facets.map fun _ => "facet.field").count key = 0 := by
    rw [List.count_eq_zero]
    simp [hfacet]
  simp only [pairs, closing, fixedKeys, List.map_append, List.map_cons, List.map_nil, List.map_map,
    Function.comp_def, List.count_append, List.count_cons, List.count_nil, hclauses, hfacets]
  cases s.start <;> cases s.mark <;>
    simp only [Option.toList, Option.isSome, List.map_cons, List.map_nil, List.count_cons,
      List.count_nil, if_true, Bool.false_eq_true, if_false] <;> omega

end Segments

/-- The keys of a format are written once each. -/
theorem Format.count_keys_le_one (format : Format) (key : String) :
    (format.entries.map fun entry => Text.Percent.encode entry.1).count key ≤ 1 := by
  have hinjective : Function.Injective Text.Percent.encode :=
    fun _ _ => Text.Percent.encode_injective
  have hnodup := (Keyed.nodup_keys_of_increasing format.increasing).map hinjective
  rw [List.map_map] at hnodup
  exact List.nodup_iff_count_le_one.mp hnodup key

namespace Request

variable (request : Request) (config : Config) (format : Format) (suppress : Bool)

/-- How many search fields of a name ask for an order of counts. -/
def orderCount (name : String) : Nat :=
  request.searchFields.countP fun field => field.name = name ∧ field.facetSort.getD "" ≠ ""

/-- The keys of the orders of counts, one for each search field that asks for one. -/
def overrideKeys : List String :=
  (Facets.overrides request.searchFields).map fun override => overrideKey override.1

/-- The order of counts for a name is written once for each search field that asks for it. -/
theorem count_overrideKeys (name : String) :
    request.overrideKeys.count (overrideKey name) = request.orderCount name := by
  have hnames : request.overrideKeys =
      ((request.searchFields.filterMap Field.override?).map Prod.fst).map overrideKey := by
    rw [overrideKeys, Facets.overrides_eq_filterMap, List.map_map]
    rfl
  rw [hnames, List.count_map_of_injective _ _ overrideKey_injective, List.count, List.countP_map,
    List.countP_filterMap, orderCount]
  refine List.countP_congr fun field _ => ?_
  rw [Field.override?]
  cases field.facetSort with
  | none => simp
  | some order => by_cases hempty : order = "" <;> simp [hempty, Option.filter]

/-- A key that no search field asks an order for does not occur among the orders. -/
theorem count_overrideKeys_eq_zero {key : String}
    (h : ∀ name, key = overrideKey name → request.orderCount name = 0) :
    request.overrideKeys.count key = 0 := by
  rw [List.count_eq_zero]
  intro hmem
  obtain ⟨override, -, rfl⟩ := List.mem_map.mp hmem
  have hcount := List.count_pos_iff.mpr hmem
  rw [count_overrideKeys, h _ rfl] at hcount
  exact Nat.lt_irrefl 0 hcount

/-- The keys of the format stand behind all others. -/
theorem keys_params :
    (request.params config format suppress).keys =
      (request.leadingParams config format suppress).keys ++
        format.entries.map fun entry => Text.Percent.encode entry.1 := by
  rw [leadingParams_eq, params, parameters_eq]
  simp [Params.keys, Params.ofParameters, formatParameters]

/-- In front of the format a key that is not repeated is a fixed one or that of an order of counts.
-/
theorem count_leadingKeys {key : String} (hclause : key ≠ "fq") (hfacet : key ≠ "facet.field") :
    (request.leadingParams config format suppress).keys.count key =
      (request.segments config format suppress).fixedKeys.count key +
        request.overrideKeys.count key := by
  have hpairs := (request.segments config format suppress).count_keys_pairs hclause hfacet
  have hkeys := congrArg (List.count key) (request.keys_params config format suppress)
  rw [Params.keys, pairs_params, hpairs, List.count_append] at hkeys
  have hoverrides : (request.segments config format suppress).overrides.map
      (fun override => "f." ++ override.1 ++ ".facet.sort") = request.overrideKeys := by
    simp [segments, overrideKeys, overrideKey]
  have hformat : (request.segments config format suppress).format.map Prod.fst =
      format.entries.map fun entry => Text.Percent.encode entry.1 := by
    simp [segments]
  rw [hoverrides, hformat] at hkeys
  omega

variable {request config format suppress}

/-- A format that gives no key in front of it has no part in those keys, nor they in its own. -/
theorem count_keys_params
    (hformat : ∀ entry ∈ format.entries,
      Text.Percent.encode entry.1 ∉ (request.leadingParams config format suppress).keys)
    (key : String) :
    let leading := (request.leadingParams config format suppress).keys.count key
    (request.params config format suppress).keys.count key ≤ max leading 1 ∧
      (0 < leading → (request.params config format suppress).keys.count key = leading) := by
  intro leading
  have hbehind := format.count_keys_le_one key
  rw [keys_params, List.count_append]
  by_cases hkey : key ∈ format.entries.map fun entry => Text.Percent.encode entry.1
  · obtain ⟨entry, hentry, rfl⟩ := List.mem_map.mp hkey
    have hzero : leading = 0 := List.count_eq_zero.mpr (hformat entry hentry)
    omega
  · have hzero := List.count_eq_zero.mpr hkey
    omega

variable (request config format suppress)

/-- If the format gives no key that stands in front of it, the key of an order of counts is written
once for each search field of the name that asks for one, and every other key at most once, but for
those of clauses and of declared facets. So no other key is written twice exactly if no two search
fields of one name ask for an order of counts. -/
theorem count_keys
    (hformat : ∀ entry ∈ format.entries,
      Text.Percent.encode entry.1 ∉ (request.leadingParams config format suppress).keys) :
    let keys := (request.params config format suppress).keys
    (∀ name, 0 < request.orderCount name →
      keys.count (overrideKey name) = request.orderCount name) ∧
    (∀ key, key ≠ "fq" → key ≠ "facet.field" →
      (∀ name, key = overrideKey name → request.orderCount name = 0) → keys.count key ≤ 1) ∧
    ((∀ key, key ≠ "fq" → key ≠ "facet.field" → keys.count key ≤ 1) ↔
      ∀ name, request.orderCount name ≤ 1) := by
  intro keys
  have hclause : ∀ name, overrideKey name ≠ "fq" := fun name => overrideKey_ne (by decide) _
  have hfacet : ∀ name, overrideKey name ≠ "facet.field" := fun name => overrideKey_ne (by decide) _
  have hasked : ∀ name, 0 < request.orderCount name →
      keys.count (overrideKey name) = request.orderCount name := by
    intro name hname
    have hleading := request.count_leadingKeys config format suppress (hclause name) (hfacet name)
    rw [request.count_overrideKeys, List.count_eq_zero.mpr
      (Segments.overrideKey_not_mem_fixedKeys _ name), Nat.zero_add] at hleading
    rw [← hleading]
    exact (count_keys_params hformat _).2 (hleading ▸ hname)
  have hother : ∀ key, key ≠ "fq" → key ≠ "facet.field" →
      (∀ name, key = overrideKey name → request.orderCount name = 0) → keys.count key ≤ 1 := by
    intro key hkeyClause hkeyFacet hkey
    have hleading := request.count_leadingKeys config format suppress hkeyClause hkeyFacet
    rw [request.count_overrideKeys_eq_zero hkey] at hleading
    have hfixed := (request.segments config format suppress).count_fixedKeys_le_one key
    refine (count_keys_params hformat key).1.trans ?_
    omega
  refine ⟨hasked, hother, ?_, ?_⟩
  · intro hkeys name
    by_contra hname
    have hcount := hkeys _ (hclause name) (hfacet name)
    rw [hasked name (by omega)] at hcount
    exact hname hcount
  · intro horders key hkeyClause hkeyFacet
    by_cases hkey : ∃ name, key = overrideKey name ∧ 0 < request.orderCount name
    · obtain ⟨name, rfl, hname⟩ := hkey
      rw [hasked name hname]
      exact horders name
    · refine hother key hkeyClause hkeyFacet fun name hname => ?_
      by_contra hzero
      exact hkey ⟨name, hname, Nat.pos_of_ne_zero hzero⟩

/-- Two lists on one field that both ask for an order of counts: the field is declared once, and its
order of counts is written twice. Another field that asks for one has it once. -/
theorem count_keys_same_name :
    let tags (value : String) : Field :=
      ⟨"tags_ss", .listFacet, .list [.text value], none, none, some "count"⟩
    let topic : Field := ⟨"topic_s", .text, .null, none, none, some "index"⟩
    let request : Request := { ofRows 10 with searchFields := [tags "a", topic, tags "b"] }
    let keys := (request.params .standard .json true).keys
    (∀ entry ∈ Format.json.entries,
        Text.Percent.encode entry.1 ∉ (request.leadingParams .standard .json true).keys) ∧
      keys.count (overrideKey "tags_ss") = 2 ∧ keys.count (overrideKey "topic_s") = 1 ∧
      keys.count "rows" ≤ 1 := by
  intro tags topic request keys
  have hformat : ∀ entry ∈ Format.json.entries,
      Text.Percent.encode entry.1 ∉ (request.leadingParams .standard .json true).keys := by decide
  obtain ⟨hasked, hother, -⟩ := request.count_keys .standard .json true hformat
  have hrows : ∀ name, "rows" ≠ overrideKey name := fun name h =>
    overrideKey_ne (by decide) _ h.symm
  refine ⟨hformat, (hasked "tags_ss" (by decide)).trans (by decide),
    (hasked "topic_s" (by decide)).trans (by decide), ?_⟩
  exact hother "rows" (by decide) (by decide) fun name h => absurd h (hrows name)

/-- The keys of that query are not all different, but for the repeatable ones. -/
theorem override_written_twice :
    let tags (value : String) : Field :=
      ⟨"tags_ss", .listFacet, .list [.text value], none, none, some "count"⟩
    let request : Request := { ofRows 10 with searchFields := [tags "a", tags "b"] }
    (∀ entry ∈ Format.json.entries,
        Text.Percent.encode entry.1 ∉ (request.leadingParams .standard .json true).keys) ∧
      ¬∀ key, key ≠ "fq" → key ≠ "facet.field" →
        (request.params .standard .json true).keys.count key ≤ 1 := by
  intro tags request
  refine ⟨by decide, fun hkeys => ?_⟩
  have hcount := hkeys "f.tags_ss.facet.sort" (by decide) (by decide)
  exact absurd hcount (by decide)

end Request

end FacetedSearch
