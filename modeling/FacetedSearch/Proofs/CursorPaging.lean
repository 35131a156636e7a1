import FacetedSearch.Proofs.DocumentOrder
import FacetedSearch.Proofs.Query.Leading

/-!
# Cursor paging, from the text of a request to its query

A cursor goes on from where the last page ended. That works only if the order of the documents is
complete and every page is asked for with a mark. `ofText_paging` follows both from the JSON text of
a request to the query string: a text that asks for a cursor without a field that identifies
documents is refused, and every other one makes a query whose last sort key is that field and which
has one mark.

The refusals are those of `Request.pagingOf`; the keys and the mark depend on a request through its
paging and its selectors only.
-/

namespace FacetedSearch

/-! ## White space at the ends of a text -/

namespace Text

/-- A text without the white space at its ends. -/
def trim (s : String) : String :=
  String.ofList ((s.toList.dropWhile isBlank).rdropWhile isBlank)

/-- Nothing is left of a text exactly if it is blank. -/
theorem trim_eq_empty_iff (s : String) : trim s = "" ↔ isBlankText s = true := by
  have hfirst : (∀ c ∈ s.toList.dropWhile isBlank, isBlank c = true) ↔
      ∀ c ∈ s.toList, isBlank c = true := by
    constructor
    · intro h c hc
      rw [← List.takeWhile_append_dropWhile (p := isBlank) (l := s.toList), List.mem_append] at hc
      exact hc.elim List.mem_takeWhile_imp (h c)
    · exact fun h c hc => h c ((List.dropWhile_sublist isBlank).subset hc)
  rw [isBlankText_eq_true_iff, ← hfirst, ← List.rdropWhile_eq_nil_iff, trim,
    String.ofList_eq_empty_iff]

end Text

namespace Request

/-! ## Forms that are refused -/

/-- The paging of a form that is accepted. -/
theorem pagingOf_eq_ok_iff {form : RequestForm} {paging : Paging} :
    pagingOf form = .ok paging ↔
      (form.pageMode = .pages ∧ paging = .pages) ∨
      (form.pageMode = .cursor ∧ ∃ idField, form.idField = some idField ∧ Text.trim idField ≠ "" ∧
        paging = .cursor form.cursorMark idField) := by
  rw [pagingOf]
  cases form.pageMode with
  | pages =>
    simp only [Except.ok.injEq, true_and, reduceCtorEq, false_and, or_false]
    exact eq_comm
  | cursor =>
    cases form.idField with
    | none => simp
    | some idField =>
      by_cases h : Text.isBlankText idField = true
      · simp [h, Text.trim_eq_empty_iff]
      · simp only [h, if_false, Except.ok.injEq, reduceCtorEq, false_and, false_or, true_and,
          Option.some.injEq, exists_eq_left', Ne, Text.trim_eq_empty_iff, not_false_eq_true,
          Bool.false_eq_true]
        exact eq_comm

/-- The forms that are refused, and why. -/
theorem pagingOf_eq_error_iff {form : RequestForm} {cause : Error} :
    pagingOf form = .error cause ↔
      form.pageMode = .cursor ∧
        ((form.idField = none ∧ cause = .missingIdField) ∨
          ∃ idField, form.idField = some idField ∧ Text.trim idField = "" ∧
            cause = .blankIdField) := by
  rw [pagingOf]
  cases form.pageMode with
  | pages => simp
  | cursor =>
    cases form.idField with
    | none =>
      simp only [Except.error.injEq, true_and, reduceCtorEq, false_and, exists_false, or_false]
      exact eq_comm
    | some idField =>
      by_cases h : Text.isBlankText idField = true
      · simp only [h, if_true, Except.error.injEq, reduceCtorEq, false_and, false_or, true_and,
          Option.some.injEq, exists_eq_left', Text.trim_eq_empty_iff]
        exact eq_comm
      · simp [h, Text.trim_eq_empty_iff]

/-- A form is refused for its paging or not at all. -/
theorem ofForm_eq_error_iff {form : RequestForm} {cause : Error} :
    ofForm form = .error cause ↔ pagingOf form = .error cause := by
  rw [ofForm]
  cases pagingOf form <;> simp

/-- An accepted request has the paging that its form asks for, and the rest of the form with the
kinds of its fields settled. -/
theorem eq_of_ofForm {form : RequestForm} {request : Request} (h : ofForm form = .ok request) :
    pagingOf form = .ok request.paging ∧
      request = {
        searchFields := form.searchFields.map (Field.ofForm none)
        filters := form.filters.map (Field.ofForm (some .text))
        selectors := form.selectors
        rows := form.rows
        start := form.start
        facetLimit := form.facetLimit
        facetSort := form.facetSort
        paging := request.paging } := by
  rw [ofForm] at h
  cases hpaging : pagingOf form with
  | error cause =>
    rw [hpaging] at h
    cases h
  | ok paging =>
    rw [hpaging] at h
    cases h
    exact ⟨rfl, rfl⟩

/-- An accepted request has the paging that its form asks for and the form's selectors. -/
theorem paging_and_selectors_of_ofForm {form : RequestForm} {request : Request}
    (h : ofForm form = .ok request) :
    pagingOf form = .ok request.paging ∧ request.selectors = form.selectors :=
  (eq_of_ofForm h).imp_right (congrArg Request.selectors)

/-- A text that decodes to a form has the request of that form, or is refused like it. -/
theorem ofText_of_decode {text : String} {form : RequestForm}
    (h : RequestForm.codec.decode text = .ok form) : ofText text = ofForm form := by
  rw [ofText, h]

/-! ## The order and the mark of a request -/

section

variable (request : Request) (config : Config) (format : Format) (suppress : Bool)

/-- There is always a key to sort by, the default one if there is no other. -/
theorem withDefault_ne_nil (keys : List SortKey) (default : SortKey) :
    SortKey.withDefault keys default ≠ [] := by
  rw [SortKey.withDefault]
  split
  · rename_i h
    rintro rfl
    simp at h
  · simp

/-- Under cursor paging the identifier stands behind at least one other key. -/
theorem sortKeys_of_cursor {mark : Option String} {idField : String}
    (hpaging : request.paging = .cursor mark idField) :
    2 ≤ (request.sortKeys config).length ∧
      (request.sortKeys config).getLast? = some ⟨idField, .ascending⟩ := by
  have hkeys := request.sortKeys_eq config
  rw [hpaging, SortKey.ofPaging] at hkeys
  have hpos := List.length_pos_of_ne_nil
    (withDefault_ne_nil (SortKey.active request.selectors) config.defaultSort)
  rw [hkeys]
  refine ⟨?_, by simp⟩
  rw [List.length_append, List.length_singleton]
  omega

/-- Without a cursor the default key stands last unless its field is sorted by already. -/
theorem sortKeys_of_pages (hpaging : request.paging = .pages) :
    request.sortKeys config =
      (request.selectors.filterMap fun selector =>
          selector.direction.map (SortKey.mk selector.field)).reverse ++
        (if ∃ key ∈ request.selectors.filterMap fun selector =>
              selector.direction.map (SortKey.mk selector.field),
            key.field = config.defaultSort.field
          then [] else [config.defaultSort]) := by
  have hkeys : SortSelector.key? = fun selector : SortSelector =>
      selector.direction.map (SortKey.mk selector.field) := rfl
  rw [sortKeys_eq, hpaging, SortKey.ofPaging, List.append_nil, SortKey.withDefault, SortKey.active,
    List.filterMap_reverse, ← hkeys]
  generalize request.selectors.filterMap SortSelector.key? = keys
  by_cases h : ∃ key ∈ keys, key.field = config.defaultSort.field
  · rw [if_pos h, if_pos (by simpa using h), List.append_nil]
  · rw [if_neg h, if_neg (by simpa using h)]

/-- The mark in front of the format, as an engine reads it. -/
theorem map_decode?_cursorMark :
    ((request.leadingParams config format suppress).getAll "cursorMark").map
        Text.Percent.decode? =
      match request.paging with
      | .pages => []
      | .cursor mark _ => [some ((mark.filter (· ≠ "")).getD "*")] := by
  rw [map_decode?_getAll_leadingParams request config format suppress (by decide),
    request.valuesAt_leadingParameters config suppress (by decide), cursorParameters_eq_match]
  cases request.paging <;> simp [countParameters, numberParameter]

/-- The sort keys in front of the format, as an engine reads them. -/
theorem map_decode?_sort :
    ((request.leadingParams config format suppress).getAll "sort").map Text.Percent.decode? =
      [some (String.intercalate "," ((request.sortKeys config).map SortKey.text))] := by
  rw [map_decode?_getAll_leadingParams request config format suppress (by decide),
    request.valuesAt_leadingParameters config suppress (by decide)]
  simp [countParameters, numberParameter, sortParameter]

end

/-- The mark that is sent is not empty, whatever mark was given. -/
theorem getD_filter_ne_empty (mark : Option String) : (mark.filter (· ≠ "")).getD "*" ≠ "" := by
  cases mark with
  | none => decide
  | some mark => by_cases h : mark = "" <;> simp [Option.filter, h]

/-! ## From a text to its query -/

/-- A text that asks for a cursor is refused exactly if it does not say what identifies documents,
and nothing else that decodes is refused. An accepted cursor has the identifier as its last sort
key, as it was given and behind another key, and one mark that is not empty. An accepted request for
pages has neither, whatever identifier and mark stand in its text. -/
theorem ofText_paging {text : String} {form : RequestForm}
    (hform : RequestForm.codec.decode text = .ok form) (config : Config) (format : Format)
    (suppress : Bool) :
    (form.pageMode = .cursor → form.idField = none → ofText text = .error .missingIdField) ∧
    (∀ idField, form.pageMode = .cursor → form.idField = some idField → Text.trim idField = "" →
      ofText text = .error .blankIdField) ∧
    ((∃ cause, ofText text = .error cause) ↔
      form.pageMode = .cursor ∧ ∀ idField, form.idField = some idField → Text.trim idField = "") ∧
    ∀ request, ofText text = .ok request →
      ((request.leadingParams config format suppress).getAll "sort").map Text.Percent.decode? =
        [some (String.intercalate "," ((request.sortKeys config).map SortKey.text))] ∧
      (form.pageMode = .cursor →
        ∃ idField mark, form.idField = some idField ∧
          mark = (form.cursorMark.filter (· ≠ "")).getD "*" ∧ mark ≠ "" ∧
          2 ≤ (request.sortKeys config).length ∧
          (request.sortKeys config).getLast? = some ⟨idField, .ascending⟩ ∧
          ((request.leadingParams config format suppress).getAll "cursorMark").map
            Text.Percent.decode? = [some mark]) ∧
      (form.pageMode = .pages →
        (request.leadingParams config format suppress).getAll "cursorMark" = [] ∧
        request.sortKeys config =
          (form.selectors.filterMap fun selector =>
              selector.direction.map (SortKey.mk selector.field)).reverse ++
            (if ∃ key ∈ form.selectors.filterMap fun selector =>
                  selector.direction.map (SortKey.mk selector.field),
                key.field = config.defaultSort.field
              then [] else [config.defaultSort])) := by
  simp only [ofText_of_decode hform, ofForm_eq_error_iff, pagingOf_eq_error_iff]
  refine ⟨?_, ?_, ?_, ?_⟩
  · intro hmode hid
    exact ⟨hmode, .inl ⟨hid, trivial⟩⟩
  · intro idField hmode hid hblank
    exact ⟨hmode, .inr ⟨idField, hid, hblank, trivial⟩⟩
  · cases form.idField <;> simp
  -- The order and the mark of an accepted request depend on its paging, and that on the form.
  · intro request hrequest
    obtain ⟨hpaging, hselectors⟩ := paging_and_selectors_of_ofForm hrequest
    have hmark := request.map_decode?_cursorMark config format suppress
    refine ⟨request.map_decode?_sort config format suppress, ?_, ?_⟩
    · intro hmode
      rcases pagingOf_eq_ok_iff.mp hpaging with ⟨hpages, _⟩ | ⟨_, idField, hid, _, hcursor⟩
      · rw [hmode] at hpages
        cases hpages
      · rw [hcursor] at hmark
        obtain ⟨hlength, hlast⟩ := request.sortKeys_of_cursor config hcursor
        exact ⟨idField, _, hid, rfl, getD_filter_ne_empty form.cursorMark, hlength, hlast, hmark⟩
    · intro hmode
      rcases pagingOf_eq_ok_iff.mp hpaging with ⟨_, hpages⟩ | ⟨hcursor, _⟩
      · rw [hpages, List.map_eq_nil_iff] at hmark
        rw [← hselectors]
        exact ⟨hmark, request.sortKeys_of_pages config hpages⟩
      · rw [hmode] at hcursor
        cases hcursor

/-- An identifier keeps the space in front of it, and an empty mark is the mark of the first page.
-/
theorem ofText_paging_spaced_identifier :
    let text :=
      "\x7b\"rows\":10,\"pageStrategy\":\"cursor\",\"idField\":\" id\",\"cursorMark\":\"\"\x7d"
    ∃ form request, RequestForm.codec.decode text = .ok form ∧ form.pageMode = .cursor ∧
      ofText text = .ok request ∧
      (request.sortKeys .standard).getLast? = some ⟨" id", .ascending⟩ ∧
      ((request.leadingParams .standard .json true).getAll "cursorMark").map
        Text.Percent.decode? = [some "*"] := by
  intro text
  -- A form has no decidable equality, so the text is read for the members that matter only.
  have hread : ((RequestForm.codec.decode text).toOption.map fun form =>
      (form.pageMode, form.idField, form.cursorMark)) = some (.cursor, some " id", some "") := by
    decide +kernel
  cases hform : RequestForm.codec.decode text with
  | error fault =>
    rw [hform] at hread
    cases hread
  | ok form =>
    rw [hform] at hread
    simp only [Except.toOption, Option.map_some, Option.some.injEq, Prod.mk.injEq] at hread
    obtain ⟨hmode, hid, hmark⟩ := hread
    obtain ⟨-, -, hrefused, haccepted⟩ := ofText_paging hform .standard .json true
    cases hrequest : ofText text with
    | error cause =>
      have hblank := (hrefused.mp ⟨cause, hrequest⟩).2 " id" hid
      exact absurd hblank (by decide)
    | ok request =>
      obtain ⟨idField, mark, hidField, hmarkValue, -, -, hlast, hwritten⟩ :=
        (haccepted request hrequest).2.1 hmode
      rw [hid, Option.some.injEq] at hidField
      rw [hmark] at hmarkValue
      have hfirst : mark = "*" := hmarkValue
      exact ⟨form, request, rfl, hmode, rfl, hidField ▸ hlast, hfirst ▸ hwritten⟩

end Request

end FacetedSearch
