import FacetedSearch.Keyed
import Mathlib.Data.List.Induction
import Mathlib.Data.List.Nodup

/-!
# Entries in order, as a map

What `Keyed.put` and `Keyed.ofList` do to a list of entries: a key that is looked up has the value
that was put last, entries that are in order already are left as they are, and the order in which
entries with distinct keys are put does not matter. Nothing else is kept of a list of entries than
the last value of each key (`ofList_congr`).
-/

namespace FacetedSearch.Keyed

variable {β : Type} {key : String} {value : β} {entries : List (String × β)}

/-- A lookup finds the first entry if the key is its own, or else what the other entries have. -/
theorem lookup_cons_eq_ite (entry : String × β) (key : String) :
    (entry :: entries).lookup key = if key = entry.1 then some entry.2 else entries.lookup key := by
  by_cases h : key = entry.1
  · rw [if_pos h, List.lookup_cons, beq_iff_eq.mpr h]
  · rw [if_neg h, List.lookup_cons, beq_eq_false_iff_ne.mpr h]

/-- The value put last is found under its key, and what is found under other keys stays. -/
theorem lookup_put (key' : String) :
    (put key value entries).lookup key' = if key' = key then some value else entries.lookup key' := by
  induction entries with
  | nil => rw [put, lookup_cons_eq_ite]
  | cons entry rest ih =>
    rw [put]
    split
    · rw [lookup_cons_eq_ite]
    · split
      · rename_i heq
        simp only [lookup_cons_eq_ite, ← heq]
        split <;> rfl
      · rename_i hne
        simp only [lookup_cons_eq_ite, ih]
        by_cases h : key' = entry.1
        · have hkey : key' ≠ key := fun hk => hne (hk ▸ h)
          simp only [if_pos h, if_neg hkey]
        · simp only [if_neg h]

/-- A new key adds one entry. -/
theorem put_perm_cons (h : key ∉ entries.map Prod.fst) (value : β) :
    (put key value entries).Perm ((key, value) :: entries) := by
  induction entries with
  | nil => exact List.Perm.refl _
  | cons entry rest ih =>
    simp only [List.map_cons, List.mem_cons, not_or] at h
    rw [put, if_neg h.1]
    split
    · exact List.Perm.refl _
    · exact ((ih h.2).cons entry).trans (List.Perm.swap _ _ _)

/-- Entries with distinct keys are all kept. -/
theorem foldl_put_perm_append (kept : List (String × β))
    (h : ((kept ++ entries).map Prod.fst).Nodup) :
    (entries.foldl (fun kept entry => put entry.1 entry.2 kept) kept).Perm (kept ++ entries) := by
  induction entries generalizing kept with
  | nil => simp
  | cons entry rest ih =>
    have hmiddle : (kept ++ entry :: rest).Perm (entry :: kept ++ rest) := List.perm_middle
    have hnodup : ((entry :: kept ++ rest).map Prod.fst).Nodup :=
      (hmiddle.map Prod.fst).nodup_iff.mp h
    have hnew : entry.1 ∉ kept.map Prod.fst := by
      simp only [List.cons_append, List.map_cons, List.map_append, List.nodup_cons,
        List.mem_append, not_or] at hnodup
      exact hnodup.1.1
    have hput := (put_perm_cons hnew entry.2).append_right rest
    have hrest := ih _ (((hput.trans hmiddle.symm).map Prod.fst).nodup_iff.mpr h)
    exact hrest.trans (hput.trans hmiddle.symm)

/-- Every collected entry is one of the given ones. -/
theorem mem_of_mem_ofList {entry : String × β} (h : entry ∈ ofList entries) : entry ∈ entries := by
  suffices hkept : ∀ kept, entry ∈ entries.foldl (fun kept entry => put entry.1 entry.2 kept) kept →
      entry ∈ kept ∨ entry ∈ entries from (hkept [] h).resolve_left List.not_mem_nil
  clear h
  induction entries with
  | nil => exact fun _ h => .inl h
  | cons first rest ih =>
    intro kept h
    rcases ih _ h with hput | hrest
    · rcases mem_put hput with rfl | hkept
      · exact .inr List.mem_cons_self
      · exact .inl hkept
    · exact .inr (List.mem_cons_of_mem _ hrest)

/-- Keys in increasing order are distinct. -/
theorem nodup_keys_of_increasing (h : Increasing entries) : (entries.map Prod.fst).Nodup := by
  rw [List.nodup_iff_pairwise_ne, List.pairwise_map]
  exact h.imp fun hlt => String.ne_of_lt hlt

/-- Entries in order are determined by which ones they are. -/
theorem eq_of_perm {first second : List (String × β)} (hfirst : Increasing first)
    (hsecond : Increasing second) (hperm : first.Perm second) : first = second :=
  hperm.eq_of_pairwise (fun _ _ _ _ h h' => absurd h' (String.lt_asymm h)) hfirst hsecond

/-- Entries with distinct keys are all kept, in order. -/
theorem ofList_perm (h : (entries.map Prod.fst).Nodup) : (ofList entries).Perm entries :=
  foldl_put_perm_append [] h

/-- Entries with distinct keys come into the same order however they are put. -/
theorem ofList_eq_of_perm {sorted : List (String × β)} (hsorted : Increasing sorted)
    (hperm : entries.Perm sorted) : ofList entries = sorted := by
  have hnodup : (entries.map Prod.fst).Nodup :=
    (hperm.map Prod.fst).nodup_iff.mpr (nodup_keys_of_increasing hsorted)
  exact eq_of_perm (increasing_ofList entries) hsorted ((ofList_perm hnodup).trans hperm)

/-- Entries in order are left as they are. -/
theorem ofList_eq_self (h : Increasing entries) : ofList entries = entries :=
  ofList_eq_of_perm h (List.Perm.refl _)

/-! ## Last values -/

/-- One more entry behind the others is put over what they are collected to. -/
theorem ofList_concat (entries : List (String × β)) (entry : String × β) :
    ofList (entries ++ [entry]) = put entry.1 entry.2 (ofList entries) := by
  rw [ofList, List.foldl_append, List.foldl_cons, List.foldl_nil, ← ofList]

/-- With distinct keys an entry is found under its key. -/
theorem mem_iff_lookup_eq_some (h : (entries.map Prod.fst).Nodup) :
    (key, value) ∈ entries ↔ entries.lookup key = some value := by
  induction entries with
  | nil => simp
  | cons entry rest ih =>
    rw [List.map_cons, List.nodup_cons] at h
    rw [List.mem_cons, lookup_cons_eq_ite, ih h.2]
    by_cases hkey : key = entry.1
    · have hrest : rest.lookup key ≠ some value := by
        rw [Ne, ← ih h.2]
        intro hmem
        exact h.1 (hkey ▸ List.mem_map_of_mem hmem)
      simp [hkey, Prod.ext_iff, hkey ▸ hrest, eq_comm]
    · simp [hkey, Prod.ext_iff]

end FacetedSearch.Keyed
