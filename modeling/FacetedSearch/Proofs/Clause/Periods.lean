import FacetedSearch.Proofs.Clause.Conditions
import FacetedSearch.Proofs.FieldGrammar
import Mathlib.Order.Lattice

/-!
# Periods that meet a window

A document is in a range if it stores a value between the ends of the range, both included; a `*`
leaves an end open. Bounds and stored values are compared in any linear order.

The clause of a period field holds of a stored period exactly if the period meets the window,
provided that both bounds are values (`periodClause_holds_iff`). A `*` for a bound does not open the
window. It stands for the bound on both sides of the clause, where it lets everything in: the clause
then holds of every stored period (`periodClause_holds_of_open`).
-/

namespace FacetedSearch

namespace Condition

/-! ## Ranges -/

section Ranges

variable {α : Type*} [LinearOrder α] (value? stored : String → Option α)

/-- The values that are not in front of the low end of a range. -/
def IsFrom (low : String) (x : α) : Prop := low = "*" ∨ ∃ a, value? low = some a ∧ a ≤ x

/-- The values that are not behind the high end of a range. -/
def IsUpTo (high : String) (x : α) : Prop := high = "*" ∨ ∃ b, value? high = some b ∧ x ≤ b

/-- The ranges that a document is in. It has to store a value in the field. -/
def InRange (field low high : String) : Prop :=
  ∃ x, stored field = some x ∧ IsFrom value? low x ∧ IsUpTo value? high x

variable {value? stored}

/-- A given lower end admits exactly the values from it on. -/
theorem isFrom_iff {low : String} {a : α} (hlow : low ≠ "*") (ha : value? low = some a) (x : α) :
    IsFrom value? low x ↔ a ≤ x := by
  simp [IsFrom, hlow, ha]

/-- A given upper end admits exactly the values up to it. -/
theorem isUpTo_iff {high : String} {b : α} (hhigh : high ≠ "*") (hb : value? high = some b) (x : α) :
    IsUpTo value? high x ↔ x ≤ b := by
  simp [IsUpTo, hhigh, hb]

/-- A stored value is in a range if both ends admit it. -/
theorem inRange_iff {field : String} {x : α} (hx : stored field = some x) (low high : String) :
    InRange value? stored field low high ↔ IsFrom value? low x ∧ IsUpTo value? high x := by
  simp [InRange, hx]

/-- The three cases of a stored period: it starts in the window, ends in it, or reaches around it.
-/
theorem holds_overlap_iff {lower upper : String} {s e : α} (hs : stored lower = some s)
    (he : stored upper = some e) (low high : String) :
    (overlap lower upper low high).Holds (InRange value? stored) ↔
      (IsFrom value? low s ∧ IsUpTo value? high s) ∨ (IsFrom value? low e ∧ IsUpTo value? high e) ∨
        (IsUpTo value? low s ∧ IsFrom value? high e) := by
  have hfrom : IsFrom value? "*" s := .inl rfl
  have hupTo : IsUpTo value? "*" e := .inl rfl
  simp only [overlap, Holds, unbounded, inRange_iff hs, inRange_iff he, hfrom, hupTo, true_and,
    and_true, or_assoc]

/-- A period and a window meet if one of the three cases applies, wherever the four ends are. -/
theorem meets_iff {a b s e : α} (hwindow : a ≤ b) (hperiod : s ≤ e) :
    (a ≤ s ∧ s ≤ b) ∨ (a ≤ e ∧ e ≤ b) ∨ (s ≤ a ∧ b ≤ e) ↔ s ≤ b ∧ a ≤ e := by
  constructor
  · rintro (⟨has, hsb⟩ | ⟨hae, heb⟩ | ⟨hsa, hbe⟩)
    · exact ⟨hsb, has.trans hperiod⟩
    · exact ⟨hperiod.trans heb, hae⟩
    · exact ⟨hsa.trans hwindow, hwindow.trans hbe⟩
  · -- The period starts in the window, or in front of it; then it ends in it or reaches around it.
    rintro ⟨hsb, hae⟩
    rcases le_total a s with has | hsa
    · exact .inl ⟨has, hsb⟩
    · rcases le_total e b with heb | hbe
      · exact .inr (.inl ⟨hae, heb⟩)
      · exact .inr (.inr ⟨hsa, hbe⟩)

/-- Between two values the condition holds of the periods that meet the window. -/
theorem holds_overlap_iff_meets {lower upper low high : String} {a b s e : α} (hlow : low ≠ "*")
    (hhigh : high ≠ "*") (ha : value? low = some a) (hb : value? high = some b) (hwindow : a ≤ b)
    (hs : stored lower = some s) (he : stored upper = some e) (hperiod : s ≤ e) :
    (overlap lower upper low high).Holds (InRange value? stored) ↔ s ≤ b ∧ a ≤ e := by
  rw [holds_overlap_iff hs he, ← meets_iff hwindow hperiod]
  simp only [isFrom_iff hlow ha, isUpTo_iff hlow ha, isFrom_iff hhigh hb, isUpTo_iff hhigh hb]

/-- A bound that is a value or open cuts the values in two. -/
theorem isFrom_or_isUpTo {bound : String} (h : bound = "*" ∨ ∃ a, value? bound = some a) (x : α) :
    IsFrom value? bound x ∨ IsUpTo value? bound x := by
  rcases h with hopen | ⟨a, ha⟩
  · exact .inl (.inl hopen)
  · rcases le_total a x with hax | hxa
    · exact .inl (.inr ⟨a, ha, hax⟩)
    · exact .inr (.inr ⟨a, ha, hxa⟩)

/-- With an open bound the condition holds of every period, whether it meets the window or not. -/
theorem holds_overlap_of_open {lower upper low high : String} {s e : α}
    (hopen : low = "*" ∨ high = "*") (hlow : low = "*" ∨ ∃ a, value? low = some a)
    (hhigh : high = "*" ∨ ∃ b, value? high = some b) (hs : stored lower = some s)
    (he : stored upper = some e) : (overlap lower upper low high).Holds (InRange value? stored) := by
  rw [holds_overlap_iff hs he]
  rcases hopen with hopen | hopen
  · -- The last case asks nothing of where the period starts.
    rcases isFrom_or_isUpTo hhigh e with hfrom | hupTo
    · exact .inr (.inr ⟨.inl hopen, hfrom⟩)
    · exact .inr (.inl ⟨.inl hopen, hupTo⟩)
  · -- Nor does it ask then where the period ends.
    rcases isFrom_or_isUpTo hlow s with hfrom | hupTo
    · exact .inl ⟨hfrom, .inl hopen⟩
    · exact .inr (.inr ⟨hupTo, .inl hopen⟩)

end Ranges

/-- The condition of an overlap is plain if its names and bounds are. -/
theorem isPlain_overlap {lower upper low high : String} (hlower : IsName lower) (hupper : IsName upper)
    (hlow : IsBound low) (hhigh : IsBound high) : (overlap lower upper low high).IsPlain := by
  have hopen : IsBound unbounded := by simp [IsBound, unbounded]
  exact ⟨⟨⟨hlower, hlow, hhigh⟩, hupper, hlow, hhigh⟩, ⟨⟨hlower, hopen, hlow⟩, rfl⟩,
    ⟨hupper, hhigh, hopen⟩, rfl⟩

end Condition

/-! ## Period fields -/

namespace Field

open Condition (IsName IsBound InRange TakenFor overlap)

/-- A value has one pair of bounds. -/
theorem eq_of_boundsOf_eq_ok {value : Json} {low high low' high' : String}
    (hbounds : value.Bounds low high) (hread : boundsOf value = .ok (low', high')) :
    low = low' ∧ high = high' := by
  rw [boundsOf_eq_ok_iff.mpr hbounds] at hread
  exact Prod.mk.inj (Except.ok.inj hread)

/-- The clause of a period field is what the field filters by. -/
theorem contribution_of_periodClause {config : Config} {field : Field} {clause : Clause}
    (hkind : field.kind = .periodRange ∨ field.kind = .periodRangeFacet)
    (hname : field.name ≠ config.pathField) (hclause : field.periodClause = .ok clause) :
    field.contribution config = .filter clause := by
  have hkindClause : field.kindClause = .ok clause := by
    rcases hkind with hkind | hkind
    · rw [kindClause, hkind, hclause]
    · rw [kindClause, hkind, hclause]
  rw [contribution, if_neg hname, hkindClause, Contribution.ofOutcome]

/-- The clause of a period field writes a condition, and is taken for that condition if the names
and bounds are plain. -/
theorem exists_overlap_of_periodClause {field : Field} {clause : Clause}
    (hclause : field.periodClause = .ok clause) :
    ∃ low high lower upper, field.value.Bounds low high ∧ field.lower = some lower ∧
      field.upper = some upper ∧ clause = (overlap lower upper low high).clause ∧
      (IsName lower → IsName upper → IsBound low → IsBound high →
        TakenFor clause.text (overlap lower upper low high)) := by
  obtain ⟨low, high, lower, upper, hbounds, hlower, _, hupper, _, htext⟩ :=
    periodClause_eq_ok_iff.mp hclause
  rw [← Condition.text_overlap] at htext
  refine ⟨low, high, lower, upper, hbounds, hlower, hupper, Clause.eq_mk_iff.mpr htext, ?_⟩
  intro hlowerName hupperName hlow hhigh
  rw [htext]
  exact Condition.takenFor_text (Condition.isPlain_overlap hlowerName hupperName hlow hhigh)

variable {α : Type*} [LinearOrder α] {config : Config} {field : Field} {clause : Clause}

/-- A period field between two values makes a clause that holds of a stored period exactly if the
period meets the window, end points included. -/
theorem periodClause_holds_iff (hkind : field.kind = .periodRange ∨ field.kind = .periodRangeFacet)
    (hname : field.name ≠ config.pathField) (hclause : field.periodClause = .ok clause) :
    field.contribution config = .filter clause ∧
    ∃ low high lower upper, field.value.Bounds low high ∧ field.lower = some lower ∧
      field.upper = some upper ∧ clause = (overlap lower upper low high).clause ∧
      (IsName lower → IsName upper → IsBound low → IsBound high →
        TakenFor clause.text (overlap lower upper low high)) ∧
      (low ≠ "*" → high ≠ "*" → ∀ (value? stored : String → Option α) (a b s e : α),
        value? low = some a → value? high = some b → a ≤ b →
        stored lower = some s → stored upper = some e → s ≤ e →
        ((overlap lower upper low high).Holds (InRange value? stored) ↔ s ≤ b ∧ a ≤ e)) := by
  obtain ⟨low, high, lower, upper, hbounds, hlower, hupper, htext, htaken⟩ :=
    exists_overlap_of_periodClause hclause
  refine ⟨contribution_of_periodClause hkind hname hclause, low, high, lower, upper, hbounds, hlower,
    hupper, htext, htaken, ?_⟩
  intro hlow hhigh value? stored a b s e ha hb hwindow hs he hperiod
  exact Condition.holds_overlap_iff_meets hlow hhigh ha hb hwindow hs he hperiod

/-- A period that begins where the window ends meets it. -/
theorem periodClause_holds_touching :
    let field : Field := ⟨"period", .periodRange, .list [.ofUInt64 5, .ofUInt64 9], some "start_i",
      some "end_i", none⟩
    let value? : String → Option ℕ := fun bound =>
      if bound = "5" then some 5 else if bound = "9" then some 9 else none
    let stored : String → Option ℕ := fun name =>
      if name = "start_i" then some 9 else if name = "end_i" then some 12 else none
    (field.kind = .periodRange ∧ field.name ≠ Config.standard.pathField) ∧
      ∃ clause, field.periodClause = .ok clause ∧
        TakenFor clause.text (overlap "start_i" "end_i" "5" "9") ∧
        (overlap "start_i" "end_i" "5" "9").Holds (InRange value? stored) := by
  intro field value? stored
  have hname : field.name ≠ Config.standard.pathField := by decide
  obtain ⟨clause, hclause⟩ : ∃ clause, field.periodClause = .ok clause := ⟨_, rfl⟩
  obtain ⟨-, low, high, lower, upper, hbounds, hlower, hupper, -, htaken, hholds⟩ :=
    periodClause_holds_iff (α := ℕ) (.inl rfl) hname hclause
  have hread : boundsOf field.value = .ok ("5", "9") := rfl
  obtain ⟨rfl, rfl⟩ := eq_of_boundsOf_eq_ok hbounds hread
  obtain rfl := Option.some.inj hlower
  obtain rfl := Option.some.inj hupper
  have hplain : IsName "start_i" ∧ IsName "end_i" ∧ IsBound "5" ∧ IsBound "9" := by
    simp [IsName, IsBound, Text.Reserved.isReserved]
  refine ⟨⟨rfl, hname⟩, clause, hclause, htaken hplain.1 hplain.2.1 hplain.2.2.1 hplain.2.2.2, ?_⟩
  exact (hholds (by decide) (by decide) value? stored 5 9 9 12 rfl rfl (by decide) rfl rfl
    (by decide)).mpr (by decide)

/-- A period field with an open bound makes a clause that holds of every stored period. -/
theorem periodClause_holds_of_open
    (hkind : field.kind = .periodRange ∨ field.kind = .periodRangeFacet)
    (hname : field.name ≠ config.pathField) (hclause : field.periodClause = .ok clause) :
    field.contribution config = .filter clause ∧
    ∃ low high lower upper, field.value.Bounds low high ∧ field.lower = some lower ∧
      field.upper = some upper ∧ clause = (overlap lower upper low high).clause ∧
      (IsName lower → IsName upper → IsBound low → IsBound high →
        TakenFor clause.text (overlap lower upper low high)) ∧
      (low = "*" ∨ high = "*" → ∀ (value? stored : String → Option α) (s e : α),
        (low = "*" ∨ ∃ a, value? low = some a) → (high = "*" ∨ ∃ b, value? high = some b) →
        stored lower = some s → stored upper = some e →
        (overlap lower upper low high).Holds (InRange value? stored)) := by
  obtain ⟨low, high, lower, upper, hbounds, hlower, hupper, htext, htaken⟩ :=
    exists_overlap_of_periodClause hclause
  refine ⟨contribution_of_periodClause hkind hname hclause, low, high, lower, upper, hbounds, hlower,
    hupper, htext, htaken, ?_⟩
  intro hopen value? stored s e hlow hhigh hs he
  exact Condition.holds_overlap_of_open hopen hlow hhigh hs he

/-- With an open high end, a period that is over before the window begins is let in. -/
theorem periodClause_holds_of_open_high :
    let field : Field := ⟨"period", .periodRangeFacet, .list [.ofUInt64 7, .text "*"], some "start_i",
      some "end_i", none⟩
    let value? : String → Option ℕ := fun bound => if bound = "7" then some 7 else none
    let stored : String → Option ℕ := fun name =>
      if name = "start_i" then some 1 else if name = "end_i" then some 2 else none
    (field.kind = .periodRangeFacet ∧ field.name ≠ Config.standard.pathField) ∧
      ∃ clause, field.periodClause = .ok clause ∧
        clause = (overlap "start_i" "end_i" "7" "*").clause ∧
        (overlap "start_i" "end_i" "7" "*").Holds (InRange value? stored) := by
  intro field value? stored
  have hname : field.name ≠ Config.standard.pathField := by decide
  obtain ⟨clause, hclause⟩ : ∃ clause, field.periodClause = .ok clause := ⟨_, rfl⟩
  obtain ⟨-, low, high, lower, upper, hbounds, hlower, hupper, htext, -, hholds⟩ :=
    periodClause_holds_of_open (α := ℕ) (.inr rfl) hname hclause
  have hread : boundsOf field.value = .ok ("7", "*") := rfl
  obtain ⟨rfl, rfl⟩ := eq_of_boundsOf_eq_ok hbounds hread
  obtain rfl := Option.some.inj hlower
  obtain rfl := Option.some.inj hupper
  refine ⟨⟨rfl, hname⟩, clause, hclause, htext, ?_⟩
  exact hholds (.inr rfl) value? stored 1 2 (.inr ⟨7, rfl⟩) (.inl rfl) rfl rfl

/-- With an open low end, a period that begins behind the high end of the window is let in. -/
theorem periodClause_holds_of_disjoint :
    let field : Field := ⟨"period", .periodRange, .list [.text "*", .ofUInt64 10], some "start_i",
      some "end_i", none⟩
    let value? : String → Option ℕ := fun bound => if bound = "10" then some 10 else none
    let stored : String → Option ℕ := fun name =>
      if name = "start_i" then some 20 else if name = "end_i" then some 30 else none
    field.contribution .standard = .filter (overlap "start_i" "end_i" "*" "10").clause ∧
      value? "10" = some 10 ∧ stored "start_i" = some 20 ∧ stored "end_i" = some 30 ∧ 20 ≤ 30 ∧
      ¬((overlap "start_i" "end_i" "*" "10").Holds (InRange value? stored) ↔ 20 ≤ 10) := by
  intro field value? stored
  have hholds : (overlap "start_i" "end_i" "*" "10").Holds (InRange value? stored) :=
    Condition.holds_overlap_of_open (.inl rfl) (.inl rfl) (.inr ⟨10, rfl⟩) (rfl : _ = some 20)
      (rfl : _ = some 30)
  refine ⟨rfl, rfl, rfl, rfl, by decide, ?_⟩
  intro h
  exact absurd (h.mp hholds) (by decide)

end Field

end FacetedSearch
