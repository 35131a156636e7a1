import FacetedSearch.Config
import FacetedSearch.Field

/-!
# Search requests

`RequestForm` is a request as a client sends it and `Request` one that can be answered: every field
has a kind, and cursor paging has the field that identifies documents. A form is refused only when
it asks for cursor paging without such a field.

`Format` is the format of the answer. It is asked for by parameters that the engine understands,
such as `wt=json`. Each name has one value, and the parameters stand in the order of their names,
however they were given.
-/

namespace FacetedSearch

open Json (Codec Reader Record Slot)

/-! ## Requests as they are sent -/

/-- How a client walks through the results. -/
inductive PageMode where
  | pages
  | cursor
  deriving DecidableEq

namespace PageMode

def name : PageMode → String
  | .pages => "paginate"
  | .cursor => "cursor"

def codec : Codec PageMode := .choice [("paginate", .pages), ("cursor", .cursor)] name

end PageMode

/-- A request as a client sends it. -/
structure RequestForm where
  searchFields : List FieldForm
  filters : List FieldForm
  selectors : List SortSelector
  rows : UInt64
  start : Option UInt64
  facetLimit : Option Int64
  facetSort : Option String
  pageMode : PageMode
  cursorMark : Option String
  idField : Option String

namespace RequestForm

def record : Record RequestForm where
  name := "QuerySpecInput"
  blank := ⟨[], [], [], 0, none, none, none, .pages, none, none⟩
  slots := [
    Slot.field "searchFields" FieldForm.codec.list (·.searchFields) fun x form =>
      { form with searchFields := x },
    Slot.field "filters" FieldForm.codec.list (·.filters) fun x form => { form with filters := x },
    Slot.field "sortFields" SortSelector.codec.list (·.selectors) fun x form =>
      { form with selectors := x },
    (Slot.field "rows" .uint64 (·.rows) fun x form => { form with rows := x }).needed,
    Slot.field "start" Codec.uint64.optional (·.start) fun x form => { form with start := x },
    Slot.field "facetLimit" Codec.int64.optional (·.facetLimit) fun x form =>
      { form with facetLimit := x },
    Slot.field "facetSort" Codec.text.optional (·.facetSort) fun x form =>
      { form with facetSort := x },
    Slot.field "pageStrategy" PageMode.codec (·.pageMode) fun x form => { form with pageMode := x },
    Slot.field "cursorMark" Codec.text.optional (·.cursorMark) fun x form =>
      { form with cursorMark := x },
    Slot.field "idField" Codec.text.optional (·.idField) fun x form => { form with idField := x }]

def codec : Codec RequestForm := .record record

end RequestForm

/-! ## Requests that can be answered -/

/-- How the results are divided: by row numbers, or by a cursor that goes on from a mark in an order
that the identifying field completes. -/
inductive Paging where
  | pages
  | cursor (mark : Option String) (idField : String)
  deriving DecidableEq

/-- The field that identifies documents, under cursor paging. -/
def Paging.idField? : Paging → Option String
  | .pages => none
  | .cursor _ idField => some idField

/-- A request that can be answered. -/
structure Request where
  searchFields : List Field
  filters : List Field
  selectors : List SortSelector
  rows : UInt64
  start : Option UInt64
  facetLimit : Option Int64
  facetSort : Option String
  paging : Paging

namespace Request

/-- Why a request is refused. -/
inductive Error where
  | malformed (fault : Fault)
  | missingIdField
  | blankIdField

def Error.message : Error → String
  | .malformed fault => "invalid request: " ++ fault.message
  | .missingIdField => "cursor paging requires an idField to break sort ties"
  | .blankIdField => "invalid request: idField must not be empty"

/-- A request for a number of rows and nothing else. -/
def ofRows (rows : UInt64) : Request where
  searchFields := []
  filters := []
  selectors := []
  rows := rows
  start := none
  facetLimit := none
  facetSort := none
  paging := .pages

/-- The paging that a form asks for. -/
def pagingOf (form : RequestForm) : Except Error Paging :=
  match form.pageMode, form.idField with
  | .pages, _ => .ok .pages
  | .cursor, none => .error .missingIdField
  | .cursor, some idField =>
    if Text.isBlankText idField then .error .blankIdField
    else .ok (.cursor form.cursorMark idField)

/-- The request of a form. A filter without a kind is a text filter; a search field without one has
no kind that is recognized. -/
def ofForm (form : RequestForm) : Except Error Request :=
  match pagingOf form with
  | .error cause => .error cause
  | .ok paging =>
    .ok {
      searchFields := form.searchFields.map (Field.ofForm none)
      filters := form.filters.map (Field.ofForm (some .text))
      selectors := form.selectors
      rows := form.rows
      start := form.start
      facetLimit := form.facetLimit
      facetSort := form.facetSort
      paging := paging }

/-- The request that a JSON text describes. -/
def ofText (s : String) : Except Error Request :=
  match RequestForm.codec.decode s with
  | .error fault => .error (.malformed fault)
  | .ok form => ofForm form

/-- The search fields and behind them the filters. -/
def fields (request : Request) : List Field := request.searchFields ++ request.filters

end Request

def Paging.json : Paging → Json
  | .pages => .object [("pageStrategy", .text PageMode.pages.name)]
  | .cursor mark idField =>
    .object [
      ("pageStrategy", .text PageMode.cursor.name),
      ("cursorMark", Json.ofOption .text mark),
      ("idField", .text idField)]

def Request.json (request : Request) : Json :=
  .object [
    ("searchFields", .list (request.searchFields.map Field.json)),
    ("filters", .list (request.filters.map Field.json)),
    ("sortFields", .list (request.selectors.map SortSelector.codec.write)),
    ("rows", Json.ofUInt64 request.rows),
    ("start", Json.ofOption Json.ofUInt64 request.start),
    ("facetLimit", Json.ofOption Json.ofInt64 request.facetLimit),
    ("facetSort", Json.ofOption .text request.facetSort),
    ("paging", request.paging.json)]

/-! ## Output format -/

/-- The parameters for the output format, in the order of their names. -/
structure Format where
  entries : List (String × String)
  increasing : Keyed.Increasing entries

namespace Format

/-- The last value given to a name counts. -/
def ofPairs (pairs : List (String × String)) : Format :=
  ⟨Keyed.ofList pairs, Keyed.increasing_ofList pairs⟩

def empty : Format := ofPairs []

/-- The answer as JSON, which is what clients get who do not ask. -/
def json : Format := ofPairs [("wt", "json")]

def codec : Codec Format where
  read levels := (Reader.texts levels).map ofPairs
  write format := .object (format.entries.map fun entry => (entry.1, .text entry.2))

end Format

end FacetedSearch
