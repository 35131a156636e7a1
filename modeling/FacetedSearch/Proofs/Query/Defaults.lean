import FacetedSearch.Proofs.CursorPaging
import FacetedSearch.Proofs.Json.Images
import FacetedSearch.Proofs.Query.Effects

/-!
# Defaults that are left out or written out

What has a default can be left out of a request, often in more than one way: the member is missing,
or it is null, empty or zero. A form does not tell these apart. A sheet does: it is what stands in
the text of a request, and the form is what the sheet comes to (`RequestSheet.form`). Sheets are
read by records that have the same fields as those of forms, so that in every text the form is that
of the sheet (`RequestSheet.decode_form`).

`RequestSheet.Fills` relates two sheets, the second one with defaults written out in any number of
places. Filters and paging are resolved when the form becomes a request, the limit and the orders of
counts when the query is put together; in either case the two requests have one query
(`Request.ofText_fills`).
-/

namespace FacetedSearch

open Json (Codec Record Slot)

/-! ## What stands in a text -/

/-- A field as it stands in a text. A kind and an order of counts may not stand there or be null. -/
structure FieldSheet where
  name : String
  kind : Option (Option Kind)
  value : Json
  lower : Option String
  upper : Option String
  facetSort : Option (Option String)
  label : Option String

namespace FieldSheet

/-- The form that a sheet comes to: what is missing is null. -/
def form (sheet : FieldSheet) : FieldForm where
  name := sheet.name
  kind := sheet.kind.join
  value := sheet.value
  lower := sheet.lower
  upper := sheet.upper
  facetSort := sheet.facetSort.join
  label := sheet.label

/-- The fields of a form, read with the difference between missing and null. -/
def record : Record FieldSheet where
  name := "SearchFieldInput"
  blank := ⟨"", none, .null, none, none, none, none⟩
  slots := [
    (Slot.field "field" .text (·.name) fun x sheet => { sheet with name := x }).needed,
    Slot.field "type" Kind.codec.optional (·.form.kind) fun x sheet =>
      { sheet with kind := some x },
    Slot.field "value" .json (·.value) fun x sheet => { sheet with value := x },
    Slot.field "lowerBound" Codec.text.optional (·.lower) fun x sheet =>
      { sheet with lower := x },
    Slot.field "upperBound" Codec.text.optional (·.upper) fun x sheet =>
      { sheet with upper := x },
    Slot.field "facetSort" Codec.text.optional (·.form.facetSort) fun x sheet =>
      { sheet with facetSort := some x },
    Slot.field "label" Codec.text.optional (·.label) fun x sheet => { sheet with label := x }]

def codec : Codec FieldSheet := .record record

/-- Reading a form is reading its sheet and forgetting what was missing, field by field. -/
theorem image_record : FieldForm.record.Image form record where
  name := rfl
  blank := rfl
  slots :=
    .cons (.needed (.field (.refl _) fun _ _ => rfl)) <|
    .cons (.field (.refl _) fun _ _ => rfl) <|
    .cons (.field (.refl _) fun _ _ => rfl) <|
    .cons (.field (.refl _) fun _ _ => rfl) <|
    .cons (.field (.refl _) fun _ _ => rfl) <|
    .cons (.field (.refl _) fun _ _ => rfl) <|
    .cons (.field (.refl _) fun _ _ => rfl) .nil

/-- The form of a decoded field is the form of its decoded sheet. -/
theorem image_codec : FieldForm.codec.Image form codec := .record image_record

end FieldSheet

/-- A request as it stands in a text. Of the members with a default it says whether they stand
there, and of those that can be null whether they are. -/
structure RequestSheet where
  searchFields : Option (List FieldSheet)
  filters : Option (List FieldSheet)
  selectors : Option (List SortSelector)
  rows : UInt64
  start : Option UInt64
  facetLimit : Option (Option Int64)
  facetSort : Option (Option String)
  pageMode : Option PageMode
  cursorMark : Option (Option String)
  idField : Option String

namespace RequestSheet

/-- The form that a sheet comes to. -/
def form (sheet : RequestSheet) : RequestForm where
  searchFields := (sheet.searchFields.getD []).map FieldSheet.form
  filters := (sheet.filters.getD []).map FieldSheet.form
  selectors := sheet.selectors.getD []
  rows := sheet.rows
  start := sheet.start
  facetLimit := sheet.facetLimit.join
  facetSort := sheet.facetSort.join
  pageMode := sheet.pageMode.getD .pages
  cursorMark := sheet.cursorMark.join
  idField := sheet.idField

def record : Record RequestSheet where
  name := "QuerySpecInput"
  blank := ⟨none, none, none, 0, none, none, none, none, none, none⟩
  slots := [
    Slot.field "searchFields" FieldSheet.codec.list (·.searchFields.getD []) fun x sheet =>
      { sheet with searchFields := some x },
    Slot.field "filters" FieldSheet.codec.list (·.filters.getD []) fun x sheet =>
      { sheet with filters := some x },
    Slot.field "sortFields" SortSelector.codec.list (·.form.selectors) fun x sheet =>
      { sheet with selectors := some x },
    (Slot.field "rows" .uint64 (·.rows) fun x sheet => { sheet with rows := x }).needed,
    Slot.field "start" Codec.uint64.optional (·.start) fun x sheet => { sheet with start := x },
    Slot.field "facetLimit" Codec.int64.optional (·.form.facetLimit) fun x sheet =>
      { sheet with facetLimit := some x },
    Slot.field "facetSort" Codec.text.optional (·.form.facetSort) fun x sheet =>
      { sheet with facetSort := some x },
    Slot.field "pageStrategy" PageMode.codec (·.form.pageMode) fun x sheet =>
      { sheet with pageMode := some x },
    Slot.field "cursorMark" Codec.text.optional (·.form.cursorMark) fun x sheet =>
      { sheet with cursorMark := some x },
    Slot.field "idField" Codec.text.optional (·.idField) fun x sheet =>
      { sheet with idField := x }]

def codec : Codec RequestSheet := .record record

/-- The same for a request, whose lists of fields are read as sheets. -/
theorem image_record : RequestForm.record.Image form record where
  name := rfl
  blank := rfl
  slots :=
    .cons (.field FieldSheet.image_codec.list fun _ _ => rfl) <|
    .cons (.field FieldSheet.image_codec.list fun _ _ => rfl) <|
    .cons (.field (.refl _) fun _ _ => rfl) <|
    .cons (.needed (.field (.refl _) fun _ _ => rfl)) <|
    .cons (.field (.refl _) fun _ _ => rfl) <|
    .cons (.field (.refl _) fun _ _ => rfl) <|
    .cons (.field (.refl _) fun _ _ => rfl) <|
    .cons (.field (.refl _) fun _ _ => rfl) <|
    .cons (.field (.refl _) fun _ _ => rfl) <|
    .cons (.field (.refl _) fun _ _ => rfl) .nil

/-- A text that is read as a sheet is read as its form, and a text with a fault has it either way.
-/
theorem decode_form (text : String) :
    RequestForm.codec.decode text = (codec.decode text).map form :=
  Codec.Image.decode (.record image_record) text

end RequestSheet

/-! ## Defaults written out -/

/-- What stands in a place before and after defaults are written out: the same, or one of the ways
to leave the default out, and the default. -/
def Filled {α : Type} (leftOut : List α) (default before after : α) : Prop :=
  after = before ∨ before ∈ leftOut ∧ after = default

/-- A list that may be missing, before and after: an empty one may be written for it, and what `R`
relates for each item of a list that stands there. -/
inductive ListFilled {α : Type} (R : α → α → Prop) : Option (List α) → Option (List α) → Prop
  | missing : ListFilled R none none
  | empty : ListFilled R none (some [])
  | given {items others : List α} (h : List.Forall₂ R items others) :
      ListFilled R (some items) (some others)

/-- A filter whose kind may be written out. -/
def FieldSheet.FillsKind (sheet other : FieldSheet) : Prop :=
  Filled [none, some none] (some (some .text)) sheet.kind other.kind ∧
    other = { sheet with kind := other.kind }

/-- A search field whose order of counts may be left out for an empty one. -/
def FieldSheet.DropsOrder (sheet other : FieldSheet) : Prop :=
  Filled [some (some "")] none sheet.facetSort other.facetSort ∧
    other = { sheet with facetSort := other.facetSort }

/-- A request in which defaults may be written out, each or not. -/
structure RequestSheet.Fills (sheet other : RequestSheet) : Prop where
  searchFields : ListFilled FieldSheet.DropsOrder sheet.searchFields other.searchFields
  filters : ListFilled FieldSheet.FillsKind sheet.filters other.filters
  selectors : ListFilled Eq sheet.selectors other.selectors
  rows : sheet.rows = other.rows
  start : sheet.start = other.start
  facetLimit : Filled [none, some none, some (some 0)] (some (some (-1))) sheet.facetLimit
    other.facetLimit
  facetSort : Filled [none, some none, some (some "")] (some (some "index")) sheet.facetSort
    other.facetSort
  pageMode : Filled [none] (some .pages) sheet.pageMode other.pageMode
  cursorMark : Filled [none, some none, some (some "")] (some (some "*")) sheet.cursorMark
    other.cursorMark
  idField : sheet.idField = other.idField

/-- The items of a filled-in list correspond to those of the list, one by one. -/
theorem ListFilled.forall₂ {α : Type} {R : α → α → Prop} {items others : Option (List α)}
    (h : ListFilled R items others) : List.Forall₂ R (items.getD []) (others.getD []) := by
  cases h with
  | missing => exact .nil
  | empty => exact .nil
  | given h => exact h

/-- A text that counts as absent when it is missing, null or empty. -/
theorem Filled.nonEmptyOr_eq {default : String} {text other : Option (Option String)}
    (h : Filled [none, some none, some (some "")] (some (some default)) text other) :
    nonEmptyOr text.join default = nonEmptyOr other.join default := by
  rcases h with rfl | ⟨hleft, rfl⟩
  · rfl
  · simp only [List.mem_cons, List.not_mem_nil, or_false] at hleft
    rcases hleft with rfl | rfl | rfl <;> simp [nonEmptyOr]

namespace FieldSheet

variable {sheet other : FieldSheet}

/-- A filter without a kind is a text filter. -/
theorem FillsKind.ofForm_eq (h : sheet.FillsKind other) :
    Field.ofForm (some .text) sheet.form = Field.ofForm (some .text) other.form := by
  obtain ⟨hkind, hother⟩ := h
  rw [hother]
  rcases hkind with hkind | ⟨hleft, hkind⟩
  · rw [hkind]
  · rw [hkind]
    simp only [List.mem_cons, List.not_mem_nil, or_false] at hleft
    rcases hleft with hleft | hleft <;> simp [Field.ofForm, form, hleft]

/-- A search field that asks for an empty order of counts asks for none. -/
theorem DropsOrder.effect_eq (h : sheet.DropsOrder other) (config : Config) :
    (Field.ofForm none sheet.form).effect config =
      (Field.ofForm none other.form).effect config := by
  obtain ⟨horder, hother⟩ := h
  rw [hother]
  rcases horder with horder | ⟨hleft, horder⟩
  · rw [horder]
  · rw [horder]
    have hnone : (Field.ofForm none sheet.form).override? = none := by
      rw [Field.override?_eq_none_iff]
      simp only [List.mem_singleton] at hleft
      exact .inr (by simp [Field.ofForm, form, hleft])
    rw [Field.effect, Field.effect, hnone]
    rfl

end FieldSheet

/-- Two pagings whose marks count for the same. -/
inductive Paging.SameMark : Paging → Paging → Prop
  | pages : SameMark .pages .pages
  | cursor {mark other : Option String} (idField : String)
      (h : nonEmptyOr mark Request.firstMark = nonEmptyOr other Request.firstMark) :
      SameMark (.cursor mark idField) (.cursor other idField)

namespace Paging.SameMark

/-- Pagings whose marks count for the same have one id field. -/
theorem idField?_eq {paging other : Paging} (h : paging.SameMark other) :
    paging.idField? = other.idField? := by
  cases h <;> rfl

/-- Pagings whose marks count for the same send the same mark. -/
theorem cursorParameters_eq {request other : Request} (h : request.paging.SameMark other.paging) :
    request.cursorParameters = other.cursorParameters := by
  rw [Request.cursorParameters, Request.cursorParameters]
  generalize request.paging = paging, other.paging = paging' at h ⊢
  cases h with
  | pages => rfl
  | cursor idField hmark => simp only [hmark]

end Paging.SameMark

namespace RequestSheet.Fills

variable {sheet other : RequestSheet}

/-- The same paging is accepted with and without its defaults. -/
theorem exists_paging (h : sheet.Fills other) {paging : Paging}
    (hpaging : Request.pagingOf sheet.form = .ok paging) :
    ∃ paging', Request.pagingOf other.form = .ok paging' ∧ paging.SameMark paging' := by
  have hmode : sheet.form.pageMode = other.form.pageMode := by
    rcases h.pageMode with hmode | ⟨hleft, hmode⟩
    · simp only [form, hmode]
    · simp only [List.mem_singleton] at hleft
      simp only [form, hmode, hleft]
      rfl
  have hid : sheet.form.idField = other.form.idField := h.idField
  rcases Request.pagingOf_eq_ok_iff.mp hpaging with
    ⟨hpages, rfl⟩ | ⟨hcursor, idField, hfield, hblank, rfl⟩
  · exact ⟨.pages, Request.pagingOf_eq_ok_iff.mpr (.inl ⟨hmode ▸ hpages, rfl⟩), .pages⟩
  · have hother : Request.pagingOf other.form = .ok (.cursor other.form.cursorMark idField) :=
      Request.pagingOf_eq_ok_iff.mpr (.inr ⟨hmode ▸ hcursor, idField, hid ▸ hfield, hblank, rfl⟩)
    exact ⟨_, hother, .cursor idField h.cursorMark.nonEmptyOr_eq⟩

/-- A limit of counts and its default have the same effect. -/
theorem effectiveFacetLimit_eq (h : sheet.Fills other) {request request' : Request}
    (hrequest : request.facetLimit = sheet.facetLimit.join)
    (hrequest' : request'.facetLimit = other.facetLimit.join) :
    request.effectiveFacetLimit = request'.effectiveFacetLimit := by
  rw [Request.effectiveFacetLimit, Request.effectiveFacetLimit, hrequest, hrequest']
  rcases h.facetLimit with hlimit | ⟨hleft, hlimit⟩
  · rw [hlimit]
  · simp only [List.mem_cons, List.not_mem_nil, or_false] at hleft
    rcases hleft with hleft | hleft | hleft <;> rw [hlimit, hleft] <;> rfl

/-- With defaults written out a request that is accepted is accepted again, and a query takes the
same from it. -/
theorem exists_request (h : sheet.Fills other) {request : Request}
    (hrequest : Request.ofForm sheet.form = .ok request) :
    ∃ request', Request.ofForm other.form = .ok request' ∧
      ∀ config, request.SameEffect config request' := by
  obtain ⟨hpaging, hsettled⟩ := Request.eq_of_ofForm hrequest
  obtain ⟨paging', hpaging', hmark⟩ := h.exists_paging hpaging
  rw [Request.ofForm, hpaging', hsettled]
  refine ⟨_, rfl, fun config => ?_⟩
  have hselectors : sheet.form.selectors = other.form.selectors :=
    List.forall₂_eq_eq_eq ▸ h.selectors.forall₂
  exact {
    searchFields := by
      simp only [form, List.map_map]
      exact map_eq_map_of_forall₂ h.searchFields.forall₂ fun field field' hfield =>
        hfield.effect_eq config
    filters := by
      simp only [form, List.map_map]
      exact map_eq_map_of_forall₂ h.filters.forall₂ fun field field' hfield =>
        congrArg (·.contribution config) hfield.ofForm_eq
    sortKeys := by rw [Request.sortKeys, Request.sortKeys, hselectors, hmark.idField?_eq]
    rows := h.rows
    start := h.start
    mark := hmark.cursorParameters_eq
    facetLimit := h.effectiveFacetLimit_eq rfl rfl
    facetOrder := h.facetSort.nonEmptyOr_eq }

end RequestSheet.Fills

/-! ## One query -/

namespace Request

/-- A search field without a kind gets one that is not recognized. -/
theorem kind_untyped {sheet : FieldSheet} (h : sheet.kind = none ∨ sheet.kind = some none) :
    (Field.ofForm none sheet.form).kind = .unrecognized "" := by
  rcases h with h | h <;> simp [Field.ofForm, FieldSheet.form, h]

/-- Unless it is on the path field, it is skipped for having none. -/
theorem contribution_untyped {sheet : FieldSheet} (h : sheet.kind = none ∨ sheet.kind = some none)
    {config : Config} (hname : sheet.name ≠ config.pathField) :
    (Field.ofForm none sheet.form).contribution config = .skipped (.unrecognizedKind "") := by
  have hfield : (Field.ofForm none sheet.form).name ≠ config.pathField := hname
  rw [Field.contribution, if_neg hfield, Field.kindClause, kind_untyped h]
  rfl

/-- A search field that makes no clause has no part in the clauses. -/
theorem clauseParameters_append_cons {request : Request} {config : Config}
    {before after : List Field} {field : Field} (h : (field.contribution config).clause? = none) :
    ({ request with searchFields := before ++ field :: after } : Request).clauseParameters config =
      ({ request with searchFields := before ++ after } : Request).clauseParameters config := by
  rw [clauseParameters, clauseParameters, clauses_explain, clauses_explain]
  simp [h]

/-- A request with defaults written out in any number of places is accepted if the one that leaves
them out is, and both have the same query. A search field without a kind gets no default: unless it
is on the path field it is skipped, and no clause and no declared facet comes from it. -/
theorem ofText_fills {text filledText : String} {sheet filled : RequestSheet} {request : Request}
    (hsheet : RequestSheet.codec.decode text = .ok sheet)
    (hfilled : RequestSheet.codec.decode filledText = .ok filled) (hfills : sheet.Fills filled)
    (hrequest : ofText text = .ok request) :
    (∃ request', ofText filledText = .ok request' ∧ ∀ config format suppress,
      request.query config format suppress = request'.query config format suppress) ∧
    ∀ (config : Config) before untyped after,
      sheet.searchFields = some (before ++ untyped :: after) →
      (untyped.kind = none ∨ untyped.kind = some none) → untyped.name ≠ config.pathField →
      let settle (sheet : FieldSheet) : Field := Field.ofForm none sheet.form
      let without : Request := { request with
        searchFields := before.map settle ++ after.map settle }
      request.searchFields = before.map settle ++ settle untyped :: after.map settle ∧
        (settle untyped).contribution config = .skipped (.unrecognizedKind "") ∧
        request.clauseParameters config = without.clauseParameters config ∧
        request.facetParameters config = without.facetParameters config := by
  have hform : RequestForm.codec.decode text = .ok sheet.form := by
    rw [RequestSheet.decode_form, hsheet]
    rfl
  have hfilledForm : RequestForm.codec.decode filledText = .ok filled.form := by
    rw [RequestSheet.decode_form, hfilled]
    rfl
  rw [ofText_of_decode hform] at hrequest
  refine ⟨?_, ?_⟩
  · obtain ⟨request', hrequest', hsame⟩ := hfills.exists_request hrequest
    rw [ofText_of_decode hfilledForm]
    exact ⟨request', hrequest', fun config => (hsame config).query_eq⟩
  · intro config before untyped after hsearch hkind hname settle without
    have hkind' : (settle untyped).kind = .unrecognized "" := kind_untyped hkind
    have hskipped := contribution_untyped hkind hname
    have hfields : request.searchFields =
        before.map settle ++ settle untyped :: after.map settle := by
      rw [(eq_of_ofForm hrequest).2]
      simp only [RequestSheet.form, hsearch, Option.getD_some, List.map_map, List.map_append,
        List.map_cons]
      rfl
    have hrest : request = { request with
        searchFields := before.map settle ++ settle untyped :: after.map settle } := by
      rw [← hfields]
    refine ⟨hfields, hskipped, ?_, ?_⟩
    · rw [hrest]
      exact clauseParameters_append_cons (by rw [hskipped]; rfl)
    · rw [facetParameters, facetParameters, hrest]
      exact congrArg _ (facetFields_append_cons (by rw [hkind']; rfl) (by simp [hkind'])
        (by rw [hskipped]; rfl))

set_option maxRecDepth 2000 in
/-- Under cursor paging the kind of a filter, an empty list of selectors, the limit and the first
mark are written out. The search field without a kind stays without one. -/
theorem ofText_fills_under_cursor :
    let untyped : FieldSheet := ⟨"t", none, .null, none, none, none, none⟩
    let filter : FieldSheet := ⟨"a", some none, .text "b", none, none, none, none⟩
    let sheet : RequestSheet := ⟨some [untyped], some [filter], none, 1, none, some (some 0), none,
      some .cursor, none, some "id"⟩
    let filled : RequestSheet := ⟨some [untyped], some [{ filter with kind := some (some .text) }],
      some [], 1, none, some (some (-1)), none, some .cursor, some (some "*"), some "id"⟩
    ∃ text filledText request request', RequestSheet.codec.decode text = .ok sheet ∧
      RequestSheet.codec.decode filledText = .ok filled ∧ sheet.Fills filled ∧
      ofText text = .ok request ∧ ofText filledText = .ok request' ∧
      request.query .standard .json true = request'.query .standard .json true ∧
      ∃ field, request.searchFields = [field] ∧
        field.contribution .standard = .skipped (.unrecognizedKind "") := by
  intro untyped filter sheet filled
  obtain ⟨text, hsheet⟩ : ∃ text, RequestSheet.codec.decode text = .ok sheet := by
    refine ⟨"\x7b\"rows\":1,\"searchFields\":[[\"t\"]],\"filters\":[[\"a\",null,\"b\"]]," ++
      "\"facetLimit\":0,\"pageStrategy\":\"cursor\",\"idField\":\"id\"\x7d", ?_⟩
    -- The characters of a long literal are slow to compute, so they are taken from its parts.
    rw [Codec.decode, String.toList_append]
    simp only [String.reduceToList]
    with_unfolding_all rfl
  obtain ⟨filledText, hfilled⟩ : ∃ text, RequestSheet.codec.decode text = .ok filled := by
    refine ⟨"\x7b\"rows\":1,\"searchFields\":[[\"t\"]],\"filters\":[[\"a\",\"text\",\"b\"]]," ++
      "\"sortFields\":[],\"facetLimit\":-1,\"pageStrategy\":\"cursor\",\"cursorMark\":\"*\"," ++
      "\"idField\":\"id\"\x7d", ?_⟩
    rw [Codec.decode, String.toList_append, String.toList_append]
    simp only [String.reduceToList]
    with_unfolding_all rfl
  have hfills : sheet.Fills filled := {
    searchFields := .given (.cons ⟨.inl rfl, rfl⟩ .nil)
    filters := .given (.cons ⟨.inr ⟨by simp [filter], rfl⟩, rfl⟩ .nil)
    selectors := .empty
    rows := rfl
    start := rfl
    facetLimit := .inr ⟨by simp [sheet], rfl⟩
    facetSort := .inl rfl
    pageMode := .inl rfl
    cursorMark := .inr ⟨by simp [sheet], rfl⟩
    idField := rfl }
  have hform : RequestForm.codec.decode text = .ok sheet.form := by
    rw [RequestSheet.decode_form, hsheet]
    rfl
  obtain ⟨request, hrequest⟩ : ∃ request, ofText text = .ok request := by
    rw [ofText_of_decode hform]
    exact ⟨_, rfl⟩
  obtain ⟨⟨request', hrequest', hquery⟩, huntyped⟩ := ofText_fills hsheet hfilled hfills hrequest
  obtain ⟨hfields, hskipped, -, -⟩ := huntyped .standard [] untyped [] rfl (.inl rfl) (by decide)
  exact ⟨text, filledText, request, request', hsheet, hfilled, hfills, hrequest, hrequest',
    hquery _ _ _, _, hfields, hskipped⟩

end Request

end FacetedSearch
