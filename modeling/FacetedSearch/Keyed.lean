/-!
# Entries in the order of their keys

A list of entries in strictly increasing order of keys serves as a map: each key has one entry, and
the order of the list depends only on the keys. Text is ordered by code points, which is also the
order of its UTF-8 bytes. `put` adds an entry or replaces the one with the same key, and keeps the
order.
-/

namespace FacetedSearch.Keyed

variable {β : Type}

/-- The entries stand in strictly increasing order of their keys. -/
def Increasing (entries : List (String × β)) : Prop :=
  entries.Pairwise fun x y => x.1 < y.1

/-- The entries with `value` under `key`. -/
def put (key : String) (value : β) : List (String × β) → List (String × β)
  | [] => [(key, value)]
  | entry :: rest =>
    if key < entry.1 then (key, value) :: entry :: rest
    else if key = entry.1 then (key, value) :: rest
    else entry :: put key value rest

/-- Entries put one after the other, so that the last value of a key stays. -/
def ofList (entries : List (String × β)) : List (String × β) :=
  entries.foldl (fun kept entry => put entry.1 entry.2 kept) []

/-- An entry behind a `put` is the one that was put or one that was there before. -/
theorem mem_put {key : String} {value : β} {entries : List (String × β)} {entry : String × β}
    (h : entry ∈ put key value entries) : entry = (key, value) ∨ entry ∈ entries := by
  induction entries with
  | nil => simpa [put] using h
  | cons x rest ih =>
    simp only [put] at h
    split at h
    · simpa using h
    · split at h
      · rcases List.mem_cons.1 h with h | h
        · exact .inl h
        · exact .inr (List.mem_cons_of_mem _ h)
      · rcases List.mem_cons.1 h with h | h
        · exact .inr (h ▸ List.mem_cons_self)
        · exact (ih h).imp_right (List.mem_cons_of_mem _)

/-- Of two different keys, one stands in front of the other. -/
private theorem lt_of_not_lt_of_ne {a b : String} (h : ¬a < b) (hne : a ≠ b) : b < a := by
  apply Classical.byContradiction
  intro h'
  exact hne (String.le_antisymm (String.not_lt.1 h') (String.not_lt.1 h))

/-- Putting an entry keeps the keys in increasing order. -/
theorem increasing_put {key : String} {value : β} {entries : List (String × β)}
    (h : Increasing entries) : Increasing (put key value entries) := by
  induction entries with
  | nil => simp [put, Increasing]
  | cons x rest ih =>
    obtain ⟨hx, hrest⟩ := List.pairwise_cons.1 h
    simp only [put]
    split
    · rename_i hlt
      refine List.pairwise_cons.2 ⟨fun y hy => ?_, h⟩
      rcases List.mem_cons.1 hy with rfl | hy
      · exact hlt
      · exact String.lt_trans hlt (hx y hy)
    · rename_i hlt
      split
      · rename_i heq
        exact List.pairwise_cons.2 ⟨fun y hy => heq ▸ hx y hy, hrest⟩
      · rename_i hne
        refine List.pairwise_cons.2 ⟨fun y hy => ?_, ih hrest⟩
        rcases mem_put hy with rfl | hy
        · exact lt_of_not_lt_of_ne hlt hne
        · exact hx y hy

/-- The keys of collected entries are in increasing order, whatever their order was before. -/
theorem increasing_ofList (entries : List (String × β)) : Increasing (ofList entries) := by
  suffices h : ∀ kept, Increasing kept →
      Increasing (entries.foldl (fun kept entry => put entry.1 entry.2 kept) kept) from
    h [] List.Pairwise.nil
  induction entries with
  | nil => exact fun _ h => h
  | cons x rest ih => exact fun kept h => ih _ (increasing_put h)

end FacetedSearch.Keyed
