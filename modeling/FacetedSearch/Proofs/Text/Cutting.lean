import Mathlib.Data.List.TakeWhile

/-!
# Cutting a text at a character

What stands in front of the first occurrence of a character, and what is left from there on.
-/

namespace FacetedSearch.Text

/-- A text falls in one way only into a part without a character and one that is empty or begins
with that character. -/
theorem takeWhile_ne_and_dropWhile_ne_iff {c : Char} {s front rest : List Char} :
    (s.takeWhile (· != c) = front ∧ s.dropWhile (· != c) = rest) ↔
      s = front ++ rest ∧ c ∉ front ∧ (rest = [] ∨ ∃ more, rest = c :: more) := by
  constructor
  · rintro ⟨rfl, rfl⟩
    refine ⟨List.takeWhile_append_dropWhile.symm, ?_, ?_⟩
    · intro hc
      simpa using List.mem_takeWhile_imp hc
    · cases hrest : s.dropWhile (· != c) with
      | nil => exact .inl rfl
      | cons d more =>
        have hd := List.head_dropWhile_not (· != c) (l := s) (by simp [hrest])
        simp only [hrest, List.head_cons] at hd
        obtain rfl : d = c := by simpa using hd
        exact .inr ⟨more, rfl⟩
  · rintro ⟨rfl, hfront, hrest⟩
    have hall : ∀ d ∈ front, (d != c) = true := by
      intro d hd
      have hne : d ≠ c := fun h => hfront (h ▸ hd)
      simpa using hne
    rw [List.takeWhile_append_of_pos hall, List.dropWhile_append_of_pos hall]
    rcases hrest with rfl | ⟨more, rfl⟩
    · simp
    · simp

/-- Two texts that are the same up to the first occurrence of a character are so in both parts. -/
theorem eq_and_eq_of_append_cons_eq {c : Char} {front front' rest rest' : List Char}
    (hfront : c ∉ front) (hfront' : c ∉ front') (h : front ++ c :: rest = front' ++ c :: rest') :
    front = front' ∧ rest = rest' := by
  obtain ⟨hfirst, hbehind⟩ := takeWhile_ne_and_dropWhile_ne_iff.mpr
    ⟨rfl, hfront, .inr ⟨rest, rfl⟩⟩
  obtain ⟨hfirst', hbehind'⟩ := takeWhile_ne_and_dropWhile_ne_iff.mpr
    ⟨rfl, hfront', .inr ⟨rest', rfl⟩⟩
  rw [h] at hfirst hbehind
  exact ⟨hfirst.symm.trans hfirst', (List.cons.inj (hbehind.symm.trans hbehind')).2⟩

end FacetedSearch.Text
