import FacetedSearch.Query.Assembly
import Mathlib.Order.Std
import Mathlib.Data.Nat.Basic

/-!
# The order of documents

A list of sort keys compares documents lexicographically: the first key that tells two documents
apart decides. Every field gives each document a value in a linear order of its own, and a
descending key turns the comparison by its field around.

A key whose field has been compared already decides nothing (`compareBy_append_of_mem`). Leaving out
the default key, or all but the last selector of a field, rests on this fact alone.
`compareBy_sortKeys` puts both together for the keys of a request and adds that, under cursor
paging, documents with different identifiers are told apart.
-/

namespace FacetedSearch

namespace SortKey

variable {Doc : Type*} {V : String → Type*} [∀ field, LinearOrder (V field)]
  (value : (field : String) → Doc → V field)

/-- Two documents by the values of one field, the other way round if the key is descending. -/
def compareDocs (key : SortKey) (d e : Doc) : Ordering :=
  match key.direction with
  | .ascending => compare (value key.field d) (value key.field e)
  | .descending => compare (value key.field e) (value key.field d)

/-- Two documents by the first of the keys that tells them apart. -/
def compareBy (keys : List SortKey) (d e : Doc) : Ordering :=
  keys.foldr (fun key later => (key.compareDocs value d e).then later) .eq

/-! ## Keys that decide nothing -/

/-- A key takes two documents for equal if they agree on its field, whatever its direction. -/
theorem compareDocs_eq_eq_iff (key : SortKey) (d e : Doc) :
    key.compareDocs value d e = .eq ↔ value key.field d = value key.field e := by
  cases h : key.direction with
  | ascending => simp [compareDocs, h]
  | descending =>
    simp only [compareDocs, h, compare_eq_iff_eq]
    exact eq_comm

theorem compareBy_cons (key : SortKey) (keys : List SortKey) (d e : Doc) :
    compareBy value (key :: keys) d e =
      (key.compareDocs value d e).then (compareBy value keys d e) := rfl

/-- Two lists of keys one behind the other compare as the first and, on a tie, the second. -/
theorem compareBy_append (first second : List SortKey) (d e : Doc) :
    compareBy value (first ++ second) d e =
      (compareBy value first d e).then (compareBy value second d e) := by
  induction first with
  | nil => rfl
  | cons key first ih =>
    rw [List.cons_append, compareBy_cons, ih, compareBy_cons, Ordering.then_assoc]

/-- Keys tie two documents exactly if the documents agree on the field of every key. -/
theorem compareBy_eq_eq_iff (keys : List SortKey) (d e : Doc) :
    compareBy value keys d e = .eq ↔ ∀ key ∈ keys, value key.field d = value key.field e := by
  induction keys with
  | nil => simp [compareBy]
  | cons key keys ih =>
    rw [compareBy_cons, Ordering.then_eq_eq, compareDocs_eq_eq_iff, ih, List.forall_mem_cons]

/-- A key decides nothing behind keys that compare its field already, in whichever direction. -/
theorem compareBy_append_of_mem {keys : List SortKey} {key : SortKey}
    (h : ∃ earlier ∈ keys, earlier.field = key.field) (d e : Doc) :
    compareBy value (keys ++ [key]) d e = compareBy value keys d e := by
  rw [compareBy_append]
  -- Only documents that the keys tie get to the last one, and they agree on its field.
  by_cases htie : compareBy value keys d e = .eq
  · obtain ⟨earlier, hearlier, hfield⟩ := h
    have hagree := (compareBy_eq_eq_iff value keys d e).mp htie earlier hearlier
    have hkey : key.compareDocs value d e = .eq := by
      rw [compareDocs_eq_eq_iff, ← hfield]
      exact hagree
    rw [htie, compareBy_cons, hkey]
    rfl
  · cases hkeys : compareBy value keys d e with
    | eq => exact absurd hkeys htie
    | lt => rfl
    | gt => rfl

instance (key : SortKey) : Std.TransCmp (key.compareDocs value) := by
  unfold compareDocs
  cases key.direction with
  | ascending => exact inferInstanceAs (Std.TransCmp (compareOn (value key.field)))
  | descending => exact @Std.TransCmp.opposite _ (compareOn (value key.field)) _

/-- The comparison by any keys is an order, up to ties. -/
instance (keys : List SortKey) : Std.TransCmp (compareBy value keys) := by
  induction keys with
  | nil => exact { eq_swap := rfl, isLE_trans := fun _ _ => rfl }
  | cons key keys ih =>
    exact inferInstanceAs (Std.TransCmp (compareLex (key.compareDocs value) (compareBy value keys)))

/-! ## The default key and the identifier -/

/-- Leaving out a default whose field has a key already does not change the comparison. -/
theorem compareBy_withDefault (keys : List SortKey) (default : SortKey) (d e : Doc) :
    compareBy value (withDefault keys default) d e = compareBy value (keys ++ [default]) d e := by
  rw [withDefault]
  split
  · rename_i h
    have hfield : ∃ key ∈ keys, key.field = default.field := by simpa using h
    rw [compareBy_append_of_mem value hfield]
  · rfl

/-- The identifier under cursor paging, as the keys that stand last. -/
def ofPaging : Paging → List SortKey
  | .pages => []
  | .cursor _ idField => [⟨idField, .ascending⟩]

/-- Paging by a cursor adds one key, ascending on the id field; paging by pages adds none. -/
theorem ofPaging_eq_toList (paging : Paging) :
    ofPaging paging = (paging.idField?.map (⟨·, .ascending⟩)).toList := by
  cases paging <;> rfl

end SortKey

namespace SortSelector

/-- Whether a selector is switched on. -/
def isActive (selector : SortSelector) : Bool := selector.direction.isSome

/-- The selectors without those behind which another one is switched on for the same field. -/
def lastOfField : List SortSelector → List SortSelector
  | [] => []
  | selector :: later =>
    if selector.isActive && later.any (fun other => other.isActive && other.field == selector.field)
    then lastOfField later
    else selector :: lastOfField later

/-- The selectors that no later one of their field follows are among all of them. -/
theorem mem_of_mem_lastOfField {selectors : List SortSelector} {selector : SortSelector}
    (h : selector ∈ lastOfField selectors) : selector ∈ selectors := by
  induction selectors with
  | nil => exact h
  | cons first later ih =>
    rw [lastOfField] at h
    split at h
    · exact List.mem_cons_of_mem _ (ih h)
    · rcases List.mem_cons.mp h with rfl | h
      · exact List.mem_cons_self
      · exact List.mem_cons_of_mem _ (ih h)

/-- No two selectors that are left are switched on for one field. -/
theorem pairwise_lastOfField (selectors : List SortSelector) :
    (lastOfField selectors).Pairwise fun first second =>
      first.isActive = true → second.isActive = true → second.field ≠ first.field := by
  induction selectors with
  | nil => exact List.Pairwise.nil
  | cons first later ih =>
    rw [lastOfField]
    split
    · exact ih
    · rename_i h
      -- A selector stays only if no later one is on for its field, whether that one stays or not.
      refine List.pairwise_cons.mpr ⟨?_, ih⟩
      intro second hsecond hfirst hactive hfield
      have hlater : later.any (fun other => other.isActive && other.field == first.field) = true :=
        List.any_eq_true.mpr ⟨second, mem_of_mem_lastOfField hsecond, by simp [hactive, hfield]⟩
      exact h (by rw [hfirst, hlater]; rfl)

end SortSelector

namespace SortKey

variable {Doc : Type*} {V : String → Type*} [∀ field, LinearOrder (V field)]
  (value : (field : String) → Doc → V field)

/-- The active keys come from the last selector to the first. -/
theorem active_cons (selector : SortSelector) (later : List SortSelector) :
    active (selector :: later) = active later ++ selector.key?.toList := by
  rw [active, List.reverse_cons, List.filterMap_append, ← active]
  cases h : selector.key? <;> simp [h]

/-- A field is among the active keys exactly if a selector of that field is switched on. -/
theorem exists_mem_active_iff (selectors : List SortSelector) (field : String) :
    (∃ key ∈ active selectors, key.field = field) ↔
      ∃ selector ∈ selectors, selector.isActive = true ∧ selector.field = field := by
  simp only [active, List.mem_filterMap, List.mem_reverse, SortSelector.isActive,
    Option.isSome_iff_exists]
  constructor
  · rintro ⟨key, ⟨selector, hselector, hkey⟩, hfield⟩
    obtain ⟨direction, hdirection, rfl⟩ := Option.map_eq_some_iff.mp hkey
    exact ⟨selector, hselector, ⟨direction, hdirection⟩, hfield⟩
  · rintro ⟨selector, hselector, ⟨direction, hdirection⟩, hfield⟩
    refine ⟨⟨selector.field, direction⟩, ⟨selector, hselector, ?_⟩, hfield⟩
    rw [SortSelector.key?, hdirection]
    rfl

/-- An earlier selector of a field decides nothing: its key stands behind that of a later one. -/
theorem compareBy_active_lastOfField (selectors : List SortSelector) (d e : Doc) :
    compareBy value (active (SortSelector.lastOfField selectors)) d e =
      compareBy value (active selectors) d e := by
  induction selectors with
  | nil => rfl
  | cons selector later ih =>
    rw [SortSelector.lastOfField]
    split
    · rename_i h
      -- The keys stand in reverse, so the key of this selector is behind that of the later one.
      obtain ⟨hactive, hlater⟩ := Bool.and_eq_true_iff.mp h
      obtain ⟨direction, hdirection⟩ := Option.isSome_iff_exists.mp hactive
      have hkey : selector.key? = some ⟨selector.field, direction⟩ := by
        rw [SortSelector.key?, hdirection]
        rfl
      have hfield : ∃ key ∈ active later, key.field = selector.field := by
        rw [exists_mem_active_iff]
        simpa using hlater
      rw [ih, active_cons, hkey, Option.toList_some, compareBy_append_of_mem value hfield]
    · rw [active_cons, compareBy_append, ih, ← compareBy_append, ← active_cons]

end SortKey

/-! ## The keys of a request -/

namespace Request

open SortKey (compareBy ofPaging)

variable {Doc : Type*} {V : String → Type*} [∀ field, LinearOrder (V field)]
  (value : (field : String) → Doc → V field) (request : Request) (config : Config) (d e : Doc)

/-- The keys of a request are its active ones, the default and the tie breaker of a cursor. -/
theorem sortKeys_eq :
    request.sortKeys config =
      SortKey.withDefault (SortKey.active request.selectors) config.defaultSort ++
        ofPaging request.paging := by
  rw [sortKeys, SortKey.order, SortKey.ofPaging_eq_toList]

/-- Leaving out a default key that a selector makes idle does not change the order. -/
theorem compareBy_sortKeys_eq :
    compareBy value (request.sortKeys config) d e =
      compareBy value
        (SortKey.active request.selectors ++ [config.defaultSort] ++ ofPaging request.paging) d e := by
  rw [sortKeys_eq, SortKey.compareBy_append, SortKey.compareBy_withDefault,
    ← SortKey.compareBy_append]

/-- The documents that the keys of a request tie. -/
theorem compareBy_sortKeys_eq_eq_iff :
    compareBy value (request.sortKeys config) d e = .eq ↔
      (∀ selector ∈ request.selectors, selector.isActive = true →
        value selector.field d = value selector.field e) ∧
      value config.defaultSort.field d = value config.defaultSort.field e ∧
      ∀ idField ∈ request.paging.idField?, value idField d = value idField e := by
  have hactive : (∀ key ∈ SortKey.active request.selectors, value key.field d = value key.field e) ↔
      ∀ selector ∈ request.selectors, selector.isActive = true →
        value selector.field d = value selector.field e := by
    constructor
    · intro hkeys selector hselector hon
      obtain ⟨key, hkey, hfield⟩ := (SortKey.exists_mem_active_iff request.selectors
        selector.field).mpr ⟨selector, hselector, hon, rfl⟩
      rw [← hfield]
      exact hkeys key hkey
    · intro hselectors key hkey
      obtain ⟨selector, hselector, hon, hfield⟩ := (SortKey.exists_mem_active_iff
        request.selectors key.field).mp ⟨key, hkey, rfl⟩
      rw [← hfield]
      exact hselectors selector hselector hon
  have hid : (∀ key ∈ ofPaging request.paging, value key.field d = value key.field e) ↔
      ∀ idField ∈ request.paging.idField?, value idField d = value idField e := by
    cases request.paging <;> simp [ofPaging, Paging.idField?]
  rw [compareBy_sortKeys_eq, SortKey.compareBy_eq_eq_iff, List.forall_mem_append,
    List.forall_mem_append, hactive, List.forall_mem_singleton, hid, and_assoc]

/-- The keys of a request order documents like the active keys, the last declared one first, then
the default and the identifier under cursor paging; of the selectors of one field only the last
matters, and without the others no two are switched on for one field. Under cursor paging documents
are tied only if they agree on the identifier and on every field that is sorted by, so that
different identifiers are never tied. -/
theorem compareBy_sortKeys :
    compareBy value (request.sortKeys config) d e =
        compareBy value ((request.selectors.filterMap fun selector =>
            selector.direction.map (SortKey.mk selector.field)).reverse ++
          [config.defaultSort] ++ ofPaging request.paging) d e ∧
      (compareBy value
          ({ request with selectors := SortSelector.lastOfField request.selectors }.sortKeys config)
          d e = compareBy value (request.sortKeys config) d e ∧
        (SortSelector.lastOfField request.selectors).Pairwise fun first second =>
          first.direction.isSome = true → second.direction.isSome = true →
            second.field ≠ first.field) ∧
      ∀ mark idField, request.paging = .cursor mark idField →
        (compareBy value (request.sortKeys config) d e = .eq ↔
          value idField d = value idField e ∧
          (∀ selector ∈ request.selectors, selector.direction.isSome = true →
            value selector.field d = value selector.field e) ∧
          value config.defaultSort.field d = value config.defaultSort.field e) ∧
        (value idField d ≠ value idField e →
          compareBy value (request.sortKeys config) d e ≠ .eq) := by
  refine ⟨?_, ⟨?_, SortSelector.pairwise_lastOfField request.selectors⟩, ?_⟩
  · rw [compareBy_sortKeys_eq, SortKey.active, List.filterMap_reverse]
    rfl
  · simp only [compareBy_sortKeys_eq, SortKey.compareBy_append,
      SortKey.compareBy_active_lastOfField]
  · intro mark idField hpaging
    have hties := request.compareBy_sortKeys_eq_eq_iff value config d e
    simp only [hpaging, Paging.idField?, Option.mem_some_iff, forall_eq'] at hties
    refine ⟨?_, ?_⟩
    · rw [hties]
      exact ⟨fun h => ⟨h.2.2, h.1, h.2.1⟩, fun h => ⟨h.2.1, h.2.2, h.1⟩⟩
    · intro hne htie
      exact hne (hties.mp htie).2.2

/-- Two selectors of one field in opposite directions do not tie documents that a cursor tells
apart. -/
theorem compareBy_sortKeys_opposite_directions :
    let request : Request := { ofRows 10 with
      selectors := [⟨"sent_on_dt", some .ascending, none, none⟩,
        ⟨"sent_on_dt", some .descending, none, none⟩]
      paging := .cursor none "id" }
    let value : String → ℕ → ℕ := fun field d => if field = "id" then d else 0
    request.paging = .cursor none "id" ∧ value "id" 0 ≠ value "id" 1 ∧
      compareBy value (request.sortKeys .standard) 0 1 ≠ .eq := by
  intro request value
  have hpaging : request.paging = .cursor none "id" := rfl
  have hids : value "id" 0 ≠ value "id" 1 := by decide
  have hcursor := (request.compareBy_sortKeys value .standard 0 1).2.2 none "id" hpaging
  exact ⟨hpaging, hids, hcursor.2 hids⟩

end Request

end FacetedSearch
