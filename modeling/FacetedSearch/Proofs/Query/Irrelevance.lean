import FacetedSearch.Proofs.CursorPaging
import FacetedSearch.Proofs.Query.Erasure

/-!
# What never reaches a query

A request says more than its query does. Labels and priorities are for the client, a selector that
is switched off sorts nothing, a mark and an identifier are for cursors, an order of counts is for
search fields, the ends of a period are for the period kinds, and of a list of bounds the first two
count.

`RequestForm.Agrees` relates two forms that differ in such things only, in any number of places at
once, and `Request.ofForm_agrees` says that both are refused alike or have one query. What two
fields that agree contribute is the same because each way to read a value is blind to what they may
differ in (`Field.Agrees.contribution_eq`); the rest is `Request.SameEffect`.
-/

namespace FacetedSearch

namespace Kind

/-- The kinds that read two bounds off the front of a list. -/
def readsBounds : Kind → Bool
  | .range | .rangeFacet | .periodRange | .periodRangeFacet => true
  | _ => false

/-- The kinds that read the names of the ends of a period. -/
def readsEnds : Kind → Bool
  | .periodRange | .periodRangeFacet => true
  | _ => false

end Kind

/-- Two lists with the same first two items, whatever follows them. -/
def Json.SameBounds (value other : Json) : Prop :=
  ∃ low high rest rest', value = .list (low :: high :: rest) ∧ other = .list (low :: high :: rest')

/-! ## Forms that agree -/

/-- Two fields as they are sent that differ at most in their labels, their orders of counts, the
names of the ends where the kind reads none, and the items behind two bounds. -/
structure FieldForm.Agrees (form other : FieldForm) : Prop where
  name : form.name = other.name
  kind : form.kind = other.kind
  value : form.value = other.value ∨
    (∃ kind ∈ form.kind, kind.readsBounds = true) ∧ form.value.SameBounds other.value
  ends : (∃ kind ∈ form.kind, kind.readsEnds = true) →
    form.lower = other.lower ∧ form.upper = other.upper

/-- Switched off, so that it sorts nothing. -/
def SortSelector.IsOff (selector : SortSelector) : Prop := selector.direction = none

/-- Two selectors that differ at most in their labels and priorities. -/
structure SortSelector.Agrees (selector other : SortSelector) : Prop where
  field : selector.field = other.field
  direction : selector.direction = other.direction

/-- Two requests as they are sent that differ at most in what never reaches a query. -/
structure RequestForm.Agrees (form other : RequestForm) : Prop where
  searchFields : List.Forall₂
    (fun field field' => field.Agrees field' ∧ field.facetSort = field'.facetSort)
    form.searchFields other.searchFields
  filters : List.Forall₂ FieldForm.Agrees form.filters other.filters
  selectors : ∃ kept kept', Erases SortSelector.IsOff form.selectors kept ∧
    Erases SortSelector.IsOff other.selectors kept' ∧ List.Forall₂ SortSelector.Agrees kept kept'
  rows : form.rows = other.rows
  start : form.start = other.start
  facetLimit : form.facetLimit = other.facetLimit
  facetSort : form.facetSort = other.facetSort
  pageMode : form.pageMode = other.pageMode
  cursor : form.pageMode = .cursor →
    form.cursorMark = other.cursorMark ∧ form.idField = other.idField

/-! ## Fields that agree -/

namespace Field

/-- Two fields of settled kinds that differ at most in their orders of counts, the names of the ends
where the kind reads none, and the items behind two bounds. -/
structure Agrees (field other : Field) : Prop where
  name : field.name = other.name
  kind : field.kind = other.kind
  value : field.value = other.value ∨
    field.kind.readsBounds = true ∧ field.value.SameBounds other.value
  ends : field.kind.readsEnds = true → field.lower = other.lower ∧ field.upper = other.upper

namespace Agrees

variable {field other : Field}

/-- Kinds without bounds read the whole value, on which the fields agree. -/
theorem value_eq (h : field.Agrees other) (hkind : field.kind.readsBounds = false) :
    field.value = other.value := by
  rcases h.value with hvalue | ⟨hbounds, -⟩
  · exact hvalue
  · rw [hkind] at hbounds
    cases hbounds

/-- No list is a scalar, so what follows two bounds does not matter. -/
theorem scalarOf_eq (h : field.Agrees other) : scalarOf field.value = scalarOf other.value := by
  rcases h.value with hvalue | ⟨-, low, high, rest, rest', hvalue, hother⟩
  · rw [hvalue]
  · rw [hvalue, hother]
    rfl

/-- The values have the same bounds, whatever items follow. -/
theorem boundsOf_eq (h : field.Agrees other) : boundsOf field.value = boundsOf other.value := by
  rcases h.value with hvalue | ⟨-, low, high, rest, rest', hvalue, hother⟩
  · rw [hvalue]
  · rw [hvalue, hother]
    rfl

/-- The path clauses are equal: a list has none, and other values agree. -/
theorem pathClause_eq (h : field.Agrees other) : field.pathClause = other.pathClause := by
  rw [pathClause, pathClause, h.scalarOf_eq, h.name]

theorem rangeClause_eq (h : field.Agrees other) : field.rangeClause = other.rangeClause := by
  rw [rangeClause, rangeClause, h.boundsOf_eq, h.name]

/-- The period clauses are equal if the kind reads the names of the ends. -/
theorem periodClause_eq (h : field.Agrees other) (hkind : field.kind.readsEnds = true) :
    field.periodClause = other.periodClause := by
  have hends : field.periodFields? = other.periodFields? := by
    rw [periodFields?, periodFields?, (h.ends hkind).1, (h.ends hkind).2]
  rw [periodClause, periodClause, h.boundsOf_eq, hends]

/-- Each kind reads its own part of a field, and on that part the two agree. -/
theorem kindClause_eq (h : field.Agrees other) : field.kindClause = other.kindClause := by
  rw [kindClause, kindClause, ← h.kind]
  cases hkind : field.kind with
  | text =>
    dsimp only
    rw [textClause, textClause, h.scalarOf_eq, h.name]
  | listFacet =>
    dsimp only
    rw [listClause, listClause, h.value_eq (by rw [hkind]; rfl), h.name]
  | dateRangeFacet =>
    dsimp only
    rw [dateRangeClause, dateRangeClause, h.value_eq (by rw [hkind]; rfl), h.name]
  | rangeFacet | range => exact h.rangeClause_eq
  | periodRangeFacet | periodRange => exact h.periodClause_eq (by rw [hkind]; rfl)
  | unrecognized tag => rfl

theorem contribution_eq (h : field.Agrees other) (config : Config) :
    field.contribution config = other.contribution config := by
  rw [contribution, contribution, h.name, h.pathClause_eq, h.kindClause_eq]

/-- Fields that agree declare the same ends of periods. -/
theorem periodFacets_eq (h : field.Agrees other) : field.periodFacets = other.periodFacets := by
  by_cases hkind : field.kind = .periodRangeFacet
  · obtain ⟨hlower, hupper⟩ := h.ends (by rw [hkind]; rfl)
    rw [periodFacets_of_kind_eq hkind, periodFacets_of_kind_eq (h.kind ▸ hkind), hlower, hupper]
  · rw [periodFacets_of_kind_ne hkind, periodFacets_of_kind_ne (h.kind ▸ hkind)]

/-- Fields that agree in their orders of counts as well have the same effect. -/
theorem effect_eq (h : field.Agrees other) (hsort : field.facetSort = other.facetSort)
    (config : Config) : field.effect config = other.effect config := by
  rw [effect, effect, h.contribution_eq config, h.periodFacets_eq, countedName?, countedName?,
    h.kind, override?, override?, hsort, h.name]

end Agrees

/-- Without a kind of its own a field gets a default one, which reads neither bounds nor ends. -/
theorem agrees_ofForm {form other : FieldForm} (h : form.Agrees other) {default : Option Kind}
    (hdefault : ∀ kind ∈ default, kind.readsEnds = false) :
    (ofForm default form).Agrees (ofForm default other) := by
  refine ⟨h.name, ?_, ?_, ?_⟩
  · rw [ofForm, ofForm, h.kind]
  · refine h.value.imp_right fun ⟨⟨kind, hkind, hreads⟩, hsame⟩ => ⟨?_, hsame⟩
    rw [ofForm, Option.mem_def.mp hkind]
    exact hreads
  · intro hreads
    refine h.ends ?_
    cases hkind : form.kind with
    | some kind =>
      rw [ofForm, hkind] at hreads
      exact ⟨kind, rfl, hreads⟩
    | none =>
      rw [ofForm, hkind] at hreads
      cases default with
      | none => cases hreads
      | some kind => exact absurd hreads (by simp [hdefault kind rfl])

end Field

/-! ## Requests that agree -/

namespace RequestForm.Agrees

variable {form other : RequestForm}

/-- Selectors that are switched off have no keys, and the others have the same ones. -/
theorem active_eq (h : form.Agrees other) :
    SortKey.active form.selectors = SortKey.active other.selectors := by
  obtain ⟨kept, kept', hkept, hkept', hsame⟩ := h.selectors
  have hoff : ∀ selector : SortSelector, selector.IsOff → selector.key? = none := by
    intro selector hselector
    rw [SortSelector.key?, Option.map_eq_none_iff]
    exact hselector
  have hkeys : kept.map SortSelector.key? = kept'.map SortSelector.key? :=
    map_eq_map_of_forall₂ hsame fun selector selector' hagrees => by
      rw [SortSelector.key?, SortSelector.key?, hagrees.field, hagrees.direction]
  have hfiltered : kept.filterMap SortSelector.key? = kept'.filterMap SortSelector.key? := by
    simpa only [List.filterMap_map, Function.id_comp] using congrArg (List.filterMap id) hkeys
  rw [SortKey.active, SortKey.active, List.filterMap_reverse, List.filterMap_reverse,
    ← hkept.filterMap_eq hoff, ← hkept'.filterMap_eq hoff, hfiltered]

/-- Pages are asked for without a mark and an identifier. -/
theorem pagingOf_eq (h : form.Agrees other) : Request.pagingOf form = Request.pagingOf other := by
  rw [Request.pagingOf, Request.pagingOf, ← h.pageMode]
  cases hmode : form.pageMode with
  | pages => rfl
  | cursor =>
    obtain ⟨hmark, hid⟩ := h.cursor hmode
    rw [hmark, hid]

end RequestForm.Agrees

namespace Request

/-- Two requests as they are sent that differ only in what never reaches a query, in however many
places, are refused for the same cause or have the same query. -/
theorem ofForm_agrees {form other : RequestForm} (h : form.Agrees other) :
    (∃ cause, ofForm form = .error cause ∧ ofForm other = .error cause) ∨
      ∃ request request', ofForm form = .ok request ∧ ofForm other = .ok request' ∧
        ∀ config format suppress,
          request.query config format suppress = request'.query config format suppress := by
  have hactive := h.active_eq
  have hsearch : ∀ field field' : FieldForm,
      field.Agrees field' ∧ field.facetSort = field'.facetSort → ∀ config,
        (Field.ofForm none field).effect config = (Field.ofForm none field').effect config := by
    intro field field' hagrees config
    have hfields : (Field.ofForm none field).Agrees (Field.ofForm none field') :=
      Field.agrees_ofForm hagrees.1 nofun
    exact hfields.effect_eq hagrees.2 config
  have hfilter : ∀ field field' : FieldForm, field.Agrees field' → ∀ config,
      (Field.ofForm (some .text) field).contribution config =
        (Field.ofForm (some .text) field').contribution config := by
    intro field field' hagrees config
    refine (Field.agrees_ofForm hagrees ?_).contribution_eq config
    rintro kind ⟨⟩
    rfl
  rw [ofForm, ofForm, h.pagingOf_eq]
  cases pagingOf other with
  | error cause => exact .inl ⟨cause, rfl, rfl⟩
  | ok paging =>
    refine .inr ⟨_, _, rfl, rfl, fun config format suppress =>
      SameEffect.query_eq ?_ format suppress⟩
    exact {
      searchFields := by
        rw [List.map_map, List.map_map]
        exact map_eq_map_of_forall₂ h.searchFields fun field field' hagrees =>
          hsearch field field' hagrees config
      filters := by
        rw [List.map_map, List.map_map]
        exact map_eq_map_of_forall₂ h.filters fun field field' hagrees =>
          hfilter field field' hagrees config
      sortKeys := by rw [sortKeys, sortKeys, SortKey.order, SortKey.order, hactive]
      rows := h.rows
      start := h.start
      mark := rfl
      facetLimit := by rw [effectiveFacetLimit, effectiveFacetLimit, h.facetLimit]
      facetOrder := by rw [h.facetSort] }

/-- Two requests for pages that differ in every such place at once. -/
theorem ofForm_agrees_everywhere :
    let one : Json := .ofUInt64 1
    let title : SortSelector := ⟨"title_s", some .ascending, none, some 1⟩
    let titled : SortSelector := ⟨"title_s", some .ascending, some "Title", none⟩
    let off : SortSelector := ⟨"id", none, none, some 0⟩
    let form : RequestForm := {
      searchFields := [
        ⟨"period", some .periodRangeFacet, .list [one, one], some "start_i", some "end_i",
          some "count", some "Period"⟩,
        ⟨"path_s", some .range, .list [one, one, .null], none, some "end_i", none, none⟩]
      filters := [⟨"author_s", none, .text "ann", some "a", none, some "count", none⟩]
      selectors := [title, off, off]
      rows := 10
      start := none
      facetLimit := none
      facetSort := none
      pageMode := .pages
      cursorMark := some "AoE"
      idField := some "" }
    let other : RequestForm := { form with
      searchFields := [
        ⟨"period", some .periodRangeFacet, .list [one, one, .text "x"], some "start_i",
          some "end_i", some "count", none⟩,
        ⟨"path_s", some .range, .list [one, one], some "start_i", none, none, some "Path"⟩]
      filters := [⟨"author_s", none, .text "ann", none, some "b", none, some "Author"⟩]
      selectors := [off, titled]
      cursorMark := none
      idField := none }
    form.Agrees other ∧
      ∃ request request', ofForm form = .ok request ∧ ofForm other = .ok request' ∧
        request.query .standard .json true = request'.query .standard .json true := by
  intro one title titled off form other
  have hoff : off.IsOff := rfl
  have hkept : Erases SortSelector.IsOff form.selectors [title] :=
    .keep title (.erase hoff (.erase hoff .nil))
  have hkept' : Erases SortSelector.IsOff other.selectors [titled] :=
    .erase hoff (.keep titled .nil)
  have hagrees : form.Agrees other := {
    searchFields :=
      .cons ⟨⟨rfl, rfl, .inr ⟨⟨_, rfl, rfl⟩, one, one, _, _, rfl, rfl⟩,
        fun _ => ⟨rfl, rfl⟩⟩, rfl⟩ <|
      .cons ⟨⟨rfl, rfl, .inr ⟨⟨_, rfl, rfl⟩, one, one, _, _, rfl, rfl⟩,
        by rintro ⟨_, ⟨⟩, ⟨⟩⟩⟩, rfl⟩ .nil
    filters := .cons ⟨rfl, rfl, .inl rfl, by rintro ⟨_, ⟨⟩, _⟩⟩ .nil
    selectors := ⟨[title], [titled], hkept, hkept', .cons ⟨rfl, rfl⟩ .nil⟩
    rows := rfl
    start := rfl
    facetLimit := rfl
    facetSort := rfl
    pageMode := rfl
    cursor := nofun }
  refine ⟨hagrees, ?_⟩
  rcases ofForm_agrees hagrees with ⟨cause, hrefused, -⟩ | ⟨request, request', h, h', hquery⟩
  · cases hrefused
  · exact ⟨request, request', h, h', hquery _ _ _⟩

end Request

end FacetedSearch
