import FacetedSearch.Config
import FacetedSearch.Proofs.Json.Codecs
import FacetedSearch.Request

/-!
# The wire format loses nothing

`decode_undoes_write`: a request, an output format or a configuration that was decoded, from
whatever text, is decoded again from the text that is written for it.

A request that was decoded has more structure than its type says: no recognized tag stands for an
unrecognized kind, and the values in it are nested in the levels that are left for them
(`FieldForm.IsDecoded`). That is what makes it come back unchanged.
-/

namespace FacetedSearch

open Json (Codec Keeps Reader Record Slot)

/-! ## Sort keys, configurations and formats -/

theorem Direction.restores (levels : Nat) (direction : Direction) :
    Direction.codec.Restores levels direction :=
  Codec.restores_choice levels (by cases direction <;> rfl)

theorem PageMode.restores (levels : Nat) (mode : PageMode) : PageMode.codec.Restores levels mode :=
  Codec.restores_choice levels (by cases mode <;> rfl)

/-- Sort keys are restored with one level for their object. -/
theorem SortKey.restores (level : Nat) (key : SortKey) : SortKey.codec.Restores (level + 1) key :=
  Json.restores_record (by decide)
    (.cons (Slot.restores_field (Codec.restores_text _ _)).needed <|
      .cons (Slot.restores_field (Direction.restores _ _)).needed .nil) rfl

/-- Sort selectors are restored with one level for their object. -/
theorem SortSelector.restores (level : Nat) (selector : SortSelector) :
    SortSelector.codec.Restores (level + 1) selector :=
  Json.restores_record (by decide)
    (.cons (Slot.restores_field (Codec.restores_text _ _)).needed <|
      .cons (Slot.restores_field
        (Codec.restores_optional fun x _ => ⟨Direction.restores _ x, nofun⟩)) <|
      .cons (Slot.restores_field (Codec.restores_optional_text _ _)) <|
      .cons (Slot.restores_field
        (Codec.restores_optional fun x _ => ⟨Codec.restores_uint32 _ x, nofun⟩)) .nil) rfl

/-- Configs are restored with a level for their object and one for the default sort key inside. -/
theorem Config.restores (level : Nat) (config : Config) :
    Config.codec.Restores (level + 2) config :=
  Json.restores_record (by decide)
    (.cons (Slot.restores_field (Codec.restores_text _ _)) <|
      .cons (Slot.restores_field (SortKey.restores _ _)) <|
      .cons (Slot.restores_field (Codec.restores_text _ _)) <|
      .cons (Slot.restores_field (Codec.restores_text _ _)) .nil) rfl

/-- A config that passes the check is not changed by it. -/
theorem Config.check_eq_ok {config config' : Config} (h : config.check = .ok config') :
    config' = config := by
  unfold check at h
  split at h
  · cases h
  · split at h
    · cases h
    · cases h
      rfl

/-- A config comes from a text if the text decodes to it and it passes the check. -/
theorem Config.ofText_eq_ok_iff {s : String} {config : Config} :
    Config.ofText s = .ok config ↔ Config.codec.decode s = .ok config ∧ config.check = .ok config := by
  unfold ofText
  constructor
  · intro h
    split at h
    · cases h
    · rename_i hdecode
      obtain rfl := check_eq_ok h
      exact ⟨hdecode, h⟩
  · rintro ⟨hdecode, hcheck⟩
    simp only [hdecode, hcheck]

/-- Formats are restored with one level for their object. -/
theorem Format.restores (level : Nat) (format : Format) :
    Format.codec.Restores (level + 1) format := by
  have hpairs : ofPairs format.entries = format := by
    simp only [ofPairs, Keyed.ofList_eq_self format.increasing]
  have htexts : (Reader.texts (level + 1)).Reads (Format.codec.write format).chars
      format.entries := by
    simp only [codec, Json.chars, Json.memberChars_eq, List.map_map, Reader.texts]
    refine Reader.ofToken_reads (Json.visible_cons (by decide) _) fun rest _ =>
      ⟨.openObject, _, rfl, ?_⟩
    refine (Json.readMembers_put .compact Reader.putText (fun value => (Json.text value).chars)
      (fun _ _ => rfl) (fun entry _ => Codec.restores_text level entry.2) rest).trans ?_
    rw [Keyed.ofList_eq_self format.increasing]
  have hread := htexts.map ofPairs
  rwa [hpairs] at hread

/-! ## Requests -/

/-- What every field has that was decoded: a recognized tag stands for its kind, and the value is as
nested as levels were left for it. -/
structure FieldForm.IsDecoded (levels : Nat) (form : FieldForm) : Prop where
  kind : ∀ kind ∈ form.kind, Kind.ofTag kind.tag = kind
  value : form.value.Nested levels

namespace FieldForm

/-- A field that is decoded holds a value nested no deeper than the levels inside it. -/
theorem gives_isDecoded (level : Nat) :
    (FieldForm.codec.read (level + 1)).Gives (IsDecoded level) := by
  have hkind : (Kind.codec.optional.read level).Gives
      fun kind => ∀ k ∈ kind, Kind.ofTag k.tag = k :=
    ((Reader.gives_true _).map fun tag _ => by rw [Kind.tag_ofTag]).optional
  refine Json.gives_record ⟨nofun, .null level⟩ ?_
  simp only [record, List.forall_mem_cons, Slot.read_needed]
  refine ⟨?_, ?_, ?_, ?_, ?_, ?_, ?_, nofun⟩
  · exact Slot.gives_field_of_keeps fun _ _ h => ⟨h.kind, h.value⟩
  · exact Slot.gives_field hkind fun _ hkind _ h => ⟨hkind, h.value⟩
  · exact Slot.gives_field (Json.gives_nested level) fun _ hvalue _ h => ⟨h.kind, hvalue⟩
  iterate 4 exact Slot.gives_field_of_keeps fun _ _ h => ⟨h.kind, h.value⟩

/-- A decoded field without binary numbers in its value is restored. -/
theorem restores {level : Nat} {form : FieldForm} (h : form.IsDecoded level)
    (hexact : form.value.isExact = true) : FieldForm.codec.Restores (level + 1) form := by
  have hkind : Kind.codec.optional.Restores level form.kind :=
    Codec.restores_optional fun kind hkind =>
      ⟨Codec.restores_map (Codec.restores_text level kind.tag) (h.kind kind hkind), nofun⟩
  exact Json.restores_record (by decide)
    (.cons (Slot.restores_field (Codec.restores_text _ _)).needed <|
      .cons (Slot.restores_field hkind) <|
      .cons (Slot.restores_field (Codec.restores_json h.value hexact)) <|
      .cons (Slot.restores_field (Codec.restores_optional_text _ _)) <|
      .cons (Slot.restores_field (Codec.restores_optional_text _ _)) <|
      .cons (Slot.restores_field (Codec.restores_optional_text _ _)) <|
      .cons (Slot.restores_field (Codec.restores_optional_text _ _)) .nil) rfl

end FieldForm

namespace RequestForm

/-- The fields of a request that was decoded are decoded. -/
def IsDecoded (levels : Nat) (form : RequestForm) : Prop :=
  ∀ field ∈ form.searchFields ++ form.filters, field.IsDecoded levels

/-- Lists and objects around the value of a field take three levels. -/
theorem gives_isDecoded (level : Nat) :
    (RequestForm.codec.read (level + 3)).Gives (IsDecoded level) := by
  have hfields := Json.gives_list (FieldForm.gives_isDecoded level)
  refine Json.gives_record nofun ?_
  simp only [record, List.forall_mem_cons, Slot.read_needed]
  refine ⟨?_, ?_, ?_, ?_, ?_, ?_, ?_, ?_, ?_, ?_, nofun⟩
  · refine Slot.gives_field hfields fun fields hnew form h => ?_
    exact List.forall_mem_append.mpr ⟨hnew, (List.forall_mem_append.mp h).2⟩
  · refine Slot.gives_field hfields fun fields hnew form h => ?_
    exact List.forall_mem_append.mpr ⟨(List.forall_mem_append.mp h).1, hnew⟩
  iterate 8 exact Slot.gives_field_of_keeps fun _ _ h => h

/-- A decoded request without binary numbers in the values of its fields is restored. -/
theorem restores {level : Nat} {form : RequestForm} (h : form.IsDecoded level)
    (hexact : ∀ field ∈ form.searchFields ++ form.filters, field.value.isExact = true) :
    RequestForm.codec.Restores (level + 3) form := by
  obtain ⟨hsearch, hfilters⟩ := List.forall_mem_append.mp h
  obtain ⟨hsearchExact, hfiltersExact⟩ := List.forall_mem_append.mp hexact
  exact Json.restores_record (by decide)
    (.cons (Slot.restores_field (Codec.restores_list fun field hfield =>
        FieldForm.restores (hsearch field hfield) (hsearchExact field hfield))) <|
      .cons (Slot.restores_field (Codec.restores_list fun field hfield =>
        FieldForm.restores (hfilters field hfield) (hfiltersExact field hfield))) <|
      .cons (Slot.restores_field
        (Codec.restores_list fun selector _ => SortSelector.restores level selector)) <|
      .cons (Slot.restores_field (Codec.restores_uint64 _ _)).needed <|
      .cons (Slot.restores_field
        (Codec.restores_optional fun x _ => ⟨Codec.restores_uint64 _ x, nofun⟩)) <|
      .cons (Slot.restores_field
        (Codec.restores_optional fun x _ => ⟨Codec.restores_int64 _ x, nofun⟩)) <|
      .cons (Slot.restores_field (Codec.restores_optional_text _ _)) <|
      .cons (Slot.restores_field (PageMode.restores _ _)) <|
      .cons (Slot.restores_field (Codec.restores_optional_text _ _)) <|
      .cons (Slot.restores_field (Codec.restores_optional_text _ _)) .nil) rfl

end RequestForm

/-! ## What was decoded comes back -/

/-- A request whose values hold no binary number, an output format and a configuration are each
decoded again from the text written for them, to themselves, and so written as the same text. -/
theorem decode_undoes_write :
    (∀ text form, RequestForm.codec.decode text = .ok form →
      (∀ field ∈ form.searchFields ++ form.filters, field.value.isExact = true) →
      ∃ again, RequestForm.codec.decode (RequestForm.codec.write form).compact = .ok again ∧
        again = form ∧
        (RequestForm.codec.write again).compact = (RequestForm.codec.write form).compact) ∧
    (∀ text format, Format.codec.decode text = .ok format →
      ∃ again, Format.codec.decode (Format.codec.write format).compact = .ok again ∧
        again = format ∧
        (Format.codec.write again).compact = (Format.codec.write format).compact) ∧
    (∀ text config, Config.ofText text = .ok config →
      ∃ again, Config.ofText (Config.codec.write config).compact = .ok again ∧
        again = config ∧
        (Config.codec.write again).compact = (Config.codec.write config).compact) := by
  refine ⟨fun text form hdecode hexact => ?_, fun text format _ => ?_,
    fun text config hdecode => ?_⟩
  · obtain ⟨rest, hrun, -⟩ := Codec.run_of_decode hdecode
    have hdecoded : form.IsDecoded 124 := RequestForm.gives_isDecoded 124 _ _ _ hrun
    exact ⟨form, Codec.decode_compact (RequestForm.restores hdecoded hexact), rfl, rfl⟩
  · exact ⟨format, Codec.decode_compact (format.restores 126), rfl, rfl⟩
  · have hcheck := (Config.ofText_eq_ok_iff.mp hdecode).2
    refine ⟨config, Config.ofText_eq_ok_iff.mpr ⟨?_, hcheck⟩, rfl, rfl⟩
    exact Codec.decode_compact (config.restores 125)

/-- A request that is written as a list comes back, with a paging mode written as an object, a kind
that means nothing, a value with a repeated key, and nothing where a text may be absent. -/
theorem decode_undoes_write_request_list :
    let text :=
      "[[[\"f\",\"odd\",\x7b\"b\":[1,[-2]],\"a\":null,\"a\":\"\\u0041\"\x7d]]," ++
        "[\x7b\"field\":\"g\"\x7d],[],10,null,-1,null,\x7b\"cursor\":null\x7d,null,\"id\"]"
    ∃ form, RequestForm.codec.decode text = .ok form ∧ form.searchFields.length = 1 ∧
      form.pageMode = .cursor ∧
      RequestForm.codec.decode (RequestForm.codec.write form).compact = .ok form := by
  intro text
  -- A form has no decidable equality, so the text is read for what matters only.
  have hread : ((RequestForm.codec.decode text).toOption.map fun form =>
      (form.searchFields.length, form.pageMode,
        (form.searchFields ++ form.filters).all (·.value.isExact))) = some (1, .cursor, true) := by
    decide +kernel
  cases hform : RequestForm.codec.decode text with
  | error fault =>
    rw [hform] at hread
    cases hread
  | ok form =>
    rw [hform] at hread
    simp only [Except.toOption, Option.map_some, Option.some.injEq, Prod.mk.injEq,
      List.all_eq_true] at hread
    obtain ⟨hlength, hmode, hexact⟩ := hread
    obtain ⟨again, hagain, rfl, -⟩ := decode_undoes_write.1 text form hform hexact
    exact ⟨again, rfl, hlength, hmode, hagain⟩

end FacetedSearch
