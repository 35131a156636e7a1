import FacetedSearch.Proofs.Query.Printing

/-!
# What a report tells

An entry is written as one flat object, although the outcome and the reason of a skipped field are
values of their own: their names stand among the members, beside what belongs to them. No key comes
up twice (`Entry.nodup_keys_members`), so nothing is lost on the way, and the members say which
outcome and which reason it is. `Entry.ofJson?` takes an entry back from the object that was read,
by looking up its keys.

Two entries that are written alike are therefore the same (`Entry.compact_json_eq_iff`). That is so
for kinds that stand for a tag. Other kinds hold the tag of a recognized one and are written like
it.
-/

namespace FacetedSearch

open Json (Codec)

/-! ## Members by their keys -/

namespace Json

/-- The members of an object that can be looked up. -/
def Finds (find : String → Option Json) (members : List (String × Json)) : Prop :=
  ∀ member ∈ members, find member.1 = some member.2

/-- All members are found if the first one and the others are. -/
theorem finds_cons_iff {find : String → Option Json} {key : String} {value : Json}
    {members : List (String × Json)} :
    Finds find ((key, value) :: members) ↔ find key = some value ∧ Finds find members :=
  List.forall_mem_cons

/-- With distinct keys all members are found, whatever order they are put into. -/
theorem finds_ofList {members : List (String × Json)} (h : (members.map Prod.fst).Nodup) :
    Finds (fun key => (Keyed.ofList members).lookup key) members := by
  intro member hmember
  have hput := (Keyed.ofList_perm h).mem_iff.mpr hmember
  exact (Keyed.mem_iff_lookup_eq_some
    (Keyed.nodup_keys_of_increasing (Keyed.increasing_ofList members))).mp hput

def text? : Json → Option String
  | .text value => some value
  | _ => none

def uint64? : Json → Option UInt64
  | .number (.whole n) => some (.ofNat n.val.toNat)
  | _ => none

/-- A number that is written is read back. -/
theorem uint64?_ofUInt64 (n : UInt64) : (ofUInt64 n).uint64? = some n := by
  simp [uint64?, ofUInt64, Whole.ofUInt64]

end Json

open Json (Finds finds_cons_iff)

/-! ## Outcomes by their members -/

namespace SkipReason

/-- The reason that members tell. -/
def ofMembers? (find : String → Option Json) : Option SkipReason :=
  match (find "reason").bind Json.text? with
  | some "empty_value" => some .emptyValue
  | some "too_few_bounds" =>
    match (find "required").bind Json.uint64?, (find "found").bind Json.uint64? with
    | some required, some found => some (.tooFewBounds required found)
    | _, _ => none
  | some "shape_mismatch" => ((find "expected").bind Json.text?).map .shapeMismatch
  | some "missing_bound_field" => some .missingBoundField
  | some "unrecognized_kind" => ((find "kind").bind Json.text?).map .unrecognizedKind
  | _ => none

/-- A reason is told by its members. -/
theorem ofMembers?_eq_some {find : String → Option Json} {reason : SkipReason}
    (h : Finds find reason.members) : ofMembers? find = some reason := by
  obtain ⟨hreason, h⟩ := finds_cons_iff.mp h
  cases reason with
  | emptyValue | missingBoundField => simp [ofMembers?, hreason, label, Json.text?]
  | tooFewBounds required found =>
    simp only [finds_cons_iff] at h
    simp [ofMembers?, hreason, h.1, h.2.1, label, Json.text?, Json.uint64?_ofUInt64]
  | shapeMismatch text | unrecognizedKind text =>
    simp only [finds_cons_iff] at h
    simp [ofMembers?, hreason, h.1, label, Json.text?]

end SkipReason

namespace Contribution

/-- The outcome that members tell. -/
def ofMembers? (find : String → Option Json) : Option Contribution :=
  match (find "outcome").bind Json.text? with
  | some "filter" => ((find "filter").bind Json.text?).map fun text => .filter ⟨text⟩
  | some "path" =>
    match (find "facetField").bind Json.text?, (find "filter").bind Json.text? with
    | some facetField, some text => some (.path facetField ⟨text⟩)
    | _, _ => none
  | some "skipped" => (SkipReason.ofMembers? find).map .skipped
  | _ => none

/-- A contribution is told by its members. -/
theorem ofMembers?_eq_some {find : String → Option Json} {contribution : Contribution}
    (h : Finds find contribution.members) : ofMembers? find = some contribution := by
  cases contribution with
  | filter clause =>
    simp only [members, finds_cons_iff] at h
    simp [ofMembers?, h.1, h.2.1, Json.text?]
  | path facetField clause =>
    simp only [members, finds_cons_iff] at h
    simp [ofMembers?, h.1, h.2.1, h.2.2.1, Json.text?]
  | skipped reason =>
    obtain ⟨houtcome, hreason⟩ := finds_cons_iff.mp h
    simp [ofMembers?, houtcome, SkipReason.ofMembers?_eq_some hreason, Json.text?]

/-- The name of the outcome and what belongs to it do not come up twice, and not as a name or a
type. -/
theorem nodup_keys_members (contribution : Contribution) :
    ("field" :: "type" :: contribution.members.map Prod.fst).Nodup := by
  cases contribution with
  | filter | path => simp [members]
  | skipped reason => cases reason <;> simp [members, SkipReason.members]

end Contribution

namespace Entry

/-- The members of an entry have distinct keys. -/
theorem nodup_keys_members (entry : Entry) : (entry.members.map Prod.fst).Nodup :=
  entry.contribution.nodup_keys_members

/-- The entry that members tell. -/
def ofMembers? (find : String → Option Json) : Option Entry :=
  match (find "field").bind Json.text?, (find "type").bind Json.text?,
    Contribution.ofMembers? find with
  | some name, some tag, some contribution => some ⟨name, .ofTag tag, contribution⟩
  | _, _, _ => none

/-- The entry that an object tells. -/
def ofJson? : Json → Option Entry
  | .object members => ofMembers? fun key => members.lookup key
  | _ => none

variable {entry : Entry}

/-- An entry is told by its members, if its kind is told by its tag. -/
theorem ofMembers?_eq_some (hkind : Kind.ofTag entry.kind.tag = entry.kind)
    {find : String → Option Json} (h : Finds find entry.members) : ofMembers? find = some entry := by
  simp only [members, finds_cons_iff] at h
  obtain ⟨hname, htag, hcontribution⟩ := h
  simp [ofMembers?, hname, htag, Contribution.ofMembers?_eq_some hcontribution, Json.text?, hkind]

/-- An entry is flat: its members hold no members. -/
theorem sorted_members (entry : Entry) : ∀ member ∈ entry.members, member.2.sorted = member.2 := by
  obtain ⟨name, kind, contribution⟩ := entry
  cases contribution with
  | filter | path => simp [members, Contribution.members, Json.sorted]
  | skipped reason =>
    cases reason <;>
      simp [members, Contribution.members, SkipReason.members, Json.sorted, Json.ofUInt64]

/-- Sorted, the object of an entry has its members in the order of their keys. -/
theorem sorted_json (entry : Entry) : entry.json.sorted = .object (Keyed.ofList entry.members) := by
  have hid : ∀ member ∈ entry.members, (member.1, member.2.sorted) = id member := by
    intro member hmember
    rw [entry.sorted_members member hmember, id]
  rw [json_eq, Json.sorted, Json.sortedMembers_eq_map, List.map_congr_left hid, List.map_id]

/-- The members of an entry are read back from their texts. -/
theorem readable_members (entry : Entry) : ∀ member ∈ entry.members, member.2.Readable 126 := by
  intro member hmember
  rw [← entry.sorted_members member hmember]
  exact entry.readable_sorted_members 126 member hmember

/-- An entry is read back from its text, its members in order. -/
theorem decode_compact_json (entry : Entry) :
    Codec.json.decode entry.json.compact = .ok entry.json.sorted := by
  rw [sorted_json, json_eq]
  exact Json.decode_compact_object entry.readable_members

/-- An entry is told by its object, sorted. -/
theorem ofJson?_sorted_json (hkind : Kind.ofTag entry.kind.tag = entry.kind) :
    ofJson? entry.json.sorted = some entry := by
  rw [sorted_json]
  exact ofMembers?_eq_some hkind (Json.finds_ofList entry.nodup_keys_members)

/-- Entries with kinds that stand for a tag are the same if they are written alike. -/
theorem eq_of_sorted_json_eq {other : Entry} (hkind : Kind.ofTag entry.kind.tag = entry.kind)
    (hkind' : Kind.ofTag other.kind.tag = other.kind)
    (h : entry.json.sorted = other.json.sorted) : entry = other := by
  have hread := ofJson?_sorted_json hkind
  rw [h, ofJson?_sorted_json hkind'] at hread
  exact (Option.some.inj hread).symm

/-- Entries whose compact texts are equal are equal. -/
theorem eq_of_compact_json_eq {other : Entry} (hkind : Kind.ofTag entry.kind.tag = entry.kind)
    (hkind' : Kind.ofTag other.kind.tag = other.kind)
    (h : entry.json.compact = other.json.compact) : entry = other := by
  have hread := entry.decode_compact_json
  rw [h, other.decode_compact_json] at hread
  exact eq_of_sorted_json_eq hkind hkind' (Except.ok.inj hread).symm

/-- An entry has no key twice, so that all its members are read from its text. It is the only entry
with that text, whether its members are written in their own order or in that of their keys. -/
theorem compact_json_eq_iff (name name' tag tag' : String) (contribution contribution' : Contribution) :
    let entry : Entry := ⟨name, .ofTag tag, contribution⟩
    let other : Entry := ⟨name', .ofTag tag', contribution'⟩
    (∃ members read, entry.json = .object members ∧ (members.map Prod.fst).Nodup ∧
      Codec.json.decode entry.json.compact = .ok (.object read) ∧ read.Perm members) ∧
    (entry.json.compact = other.json.compact ↔
      name = name' ∧ Kind.ofTag tag = Kind.ofTag tag' ∧ contribution = contribution') ∧
    (entry.json.sorted.compact = other.json.sorted.compact ↔
      name = name' ∧ Kind.ofTag tag = Kind.ofTag tag' ∧ contribution = contribution') := by
  intro entry other
  have hparts : entry = other ↔
      name = name' ∧ Kind.ofTag tag = Kind.ofTag tag' ∧ contribution = contribution' := by
    rw [Entry.mk.injEq]
  have hkind : ∀ tag, Kind.ofTag (Kind.ofTag tag).tag = Kind.ofTag tag := fun tag => by
    rw [Kind.tag_ofTag]
  refine ⟨⟨entry.members, Keyed.ofList entry.members, rfl, entry.nodup_keys_members, ?_, ?_⟩, ?_, ?_⟩
  · rw [entry.decode_compact_json, entry.sorted_json]
  · exact Keyed.ofList_perm entry.nodup_keys_members
  · rw [← hparts]
    exact ⟨eq_of_compact_json_eq (hkind tag) (hkind tag'), fun h => h ▸ rfl⟩
  · rw [← hparts]
    refine ⟨fun h => eq_of_sorted_json_eq (hkind tag) (hkind tag') ?_, fun h => h ▸ rfl⟩
    have hread := (entry.readable_json 126).decode_compact
    rw [h, (other.readable_json 126).decode_compact] at hread
    exact (Except.ok.inj hread).symm

end Entry

end FacetedSearch
