import FacetedSearch.Sort

/-!
# Engine configuration

The names that an engine's index uses: the query that matches every document, the sort key that
comes last, the field that a document with an attachment has, and the field that holds paths.

A base query that holds white space only counts as empty, and so does a name that a request has to
give. White space is the Unicode property of that name: twenty-five characters, far more than the
ASCII ones.
-/

namespace FacetedSearch

open Json (Codec Record Slot)

/-! ## Blank text -/

namespace Text

/-- The characters with the Unicode property `White_Space`. -/
def isBlank (c : Char) : Bool :=
  let n := c.toNat
  (0x9 ≤ n && n ≤ 0xd) || n == 0x20 || n == 0x85 || n == 0xa0 || n == 0x1680 ||
    (0x2000 ≤ n && n ≤ 0x200a) || n == 0x2028 || n == 0x2029 || n == 0x202f || n == 0x205f ||
    n == 0x3000

/-- Text that holds nothing but white space; the empty text is one. -/
def isBlankText (s : String) : Bool :=
  s.toList.all isBlank

/-- All characters of a blank text are white space. -/
theorem isBlankText_eq_true_iff (s : String) :
    isBlankText s = true ↔ ∀ c ∈ s.toList, isBlank c = true := by
  simp [isBlankText]

end Text

/-! ## Configurations -/

/-- The names that go into every query. -/
structure Config where
  baseQuery : String
  defaultSort : SortKey
  attachmentField : String
  pathField : String
  deriving DecidableEq

namespace Config

def standard : Config where
  baseQuery := "*:*"
  defaultSort := ⟨"sent_on_dt", .descending⟩
  attachmentField := "subject_s"
  pathField := "path_s"

def record : Record Config where
  name := "AssemblerConfig"
  blank := standard
  slots := [
    Slot.field "baseQuery" .text (·.baseQuery) fun x config => { config with baseQuery := x },
    Slot.field "defaultSort" SortKey.codec (·.defaultSort) fun x config =>
      { config with defaultSort := x },
    Slot.field "attachmentField" .text (·.attachmentField) fun x config =>
      { config with attachmentField := x },
    Slot.field "pathField" .text (·.pathField) fun x config => { config with pathField := x }]

def codec : Codec Config := .record record

/-- Why a configuration is refused. -/
inductive Error where
  | unreadable (path reason : String)
  | malformed (fault : Fault)
  | blankBaseQuery
  | missingSortField

def Error.message : Error → String
  | .unreadable path reason => "config error: " ++ path ++ ": " ++ reason
  | .malformed fault => "config error: " ++ fault.message
  | .blankBaseQuery => "config error: baseQuery must not be empty"
  | .missingSortField => "config error: defaultSort.field must not be empty"

/-- A configuration needs a base query and a default sort field. -/
def check (config : Config) : Except Error Config :=
  if Text.isBlankText config.baseQuery then .error .blankBaseQuery
  else if config.defaultSort.field = "" then .error .missingSortField
  else .ok config

/-- The configuration that a JSON text describes. -/
def ofText (s : String) : Except Error Config :=
  match codec.decode s with
  | .error fault => .error (.malformed fault)
  | .ok config => config.check

end Config

end FacetedSearch
