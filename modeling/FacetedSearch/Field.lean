import FacetedSearch.Json.Codec
import FacetedSearch.Json.Printer

/-!
# Fields

A search is narrowed by fields. The kind of a field says how its value is to be read: as a text, as
a list of alternatives, as a range, as a range of dates, or as a period that is held by two other
fields. The facet kinds also ask for the values of the field to be counted.

`FieldForm` is a field as a client sends it, `Field` one whose kind is settled.
-/

namespace FacetedSearch

open Json (Codec Record Slot)

/-- How the value of a field is read. A tag without a meaning is kept; it makes no filter. -/
inductive Kind where
  | text
  | listFacet
  | rangeFacet
  | range
  | dateRangeFacet
  | periodRangeFacet
  | periodRange
  | unrecognized (tag : String)
  deriving DecidableEq

namespace Kind

/-- The kind that a tag stands for. Every tag stands for one. -/
def ofTag (tag : String) : Kind :=
  if tag = "text" then .text
  else if tag = "list-facet" then .listFacet
  else if tag = "range-facet" then .rangeFacet
  else if tag = "range" then .range
  else if tag = "date-range-facet" then .dateRangeFacet
  else if tag = "period-range-facet" then .periodRangeFacet
  else if tag = "period-range" then .periodRange
  else .unrecognized tag

def tag : Kind → String
  | .text => "text"
  | .listFacet => "list-facet"
  | .rangeFacet => "range-facet"
  | .range => "range"
  | .dateRangeFacet => "date-range-facet"
  | .periodRangeFacet => "period-range-facet"
  | .periodRange => "period-range"
  | .unrecognized tag => tag

def isRecognized : Kind → Bool
  | .unrecognized _ => false
  | _ => true

/-- No tag is lost. -/
@[simp]
theorem tag_ofTag (tag : String) : (ofTag tag).tag = tag := by
  unfold ofTag
  repeat' split
  all_goals simp_all [Kind.tag]

/-- A kind is written as its tag. -/
def codec : Codec Kind := Codec.text.map ofTag tag

end Kind

/-- A field as a client sends it. -/
structure FieldForm where
  name : String
  kind : Option Kind
  value : Json
  lower : Option String
  upper : Option String
  facetSort : Option String
  label : Option String

namespace FieldForm

def record : Record FieldForm where
  name := "SearchFieldInput"
  blank := ⟨"", none, .null, none, none, none, none⟩
  slots := [
    (Slot.field "field" .text (·.name) fun x form => { form with name := x }).needed,
    Slot.field "type" Kind.codec.optional (·.kind) fun x form => { form with kind := x },
    Slot.field "value" .json (·.value) fun x form => { form with value := x },
    Slot.field "lowerBound" Codec.text.optional (·.lower) fun x form => { form with lower := x },
    Slot.field "upperBound" Codec.text.optional (·.upper) fun x form => { form with upper := x },
    Slot.field "facetSort" Codec.text.optional (·.facetSort) fun x form =>
      { form with facetSort := x },
    Slot.field "label" Codec.text.optional (·.label) fun x form => { form with label := x }]

def codec : Codec FieldForm := .record record

end FieldForm

/-- A field of a settled kind. `lower` and `upper` name the fields that hold the ends of a period.
-/
structure Field where
  name : String
  kind : Kind
  value : Json
  lower : Option String
  upper : Option String
  facetSort : Option String

namespace Field

/-- The field of a form. A form without a kind has the default one, or the kind of the empty tag. -/
def ofForm (default : Option Kind) (form : FieldForm) : Field where
  name := form.name
  kind := (form.kind.or default).getD (.unrecognized "")
  value := form.value
  lower := form.lower
  upper := form.upper
  facetSort := form.facetSort

def json (field : Field) : Json :=
  .object [
    ("field", .text field.name),
    ("type", .text field.kind.tag),
    ("value", field.value),
    ("lowerBound", Json.ofOption .text field.lower),
    ("upperBound", Json.ofOption .text field.upper),
    ("facetSort", Json.ofOption .text field.facetSort)]

end Field

end FacetedSearch
