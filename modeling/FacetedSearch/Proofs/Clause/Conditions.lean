import FacetedSearch.Clause
import FacetedSearch.Proofs.Text.Cutting
import FacetedSearch.Text.Reserved

/-!
# How conditions are read

The query parser reads alternatives of conjunctions of single conditions: `AND` binds tighter than
`OR`, and a single condition is a range or alternatives in parentheses. `Reads` is this grammar. It
does not mention how conditions are written.

* `Reads.unique`: a text is read in one way only.
* `takenFor_text`: a condition that is written is read as one that holds of the same documents, whatever
the ranges mean.
-/

namespace FacetedSearch.Condition

/-- The conditions that hold, given the ranges that do. -/
def Holds (within : String → String → String → Prop) : Condition → Prop
  | .within field low high => within field low high
  | .either first second => first.Holds within ∨ second.Holds within
  | .both first second => first.Holds within ∧ second.Holds within

/-! ## The grammar -/

/-- A field name in which no character is reserved. -/
def IsName (name : String) : Prop :=
  name ≠ "" ∧ ∀ c ∈ name.toList, Text.Reserved.isReserved c = false

/-- A bound that a range does not end in. -/
def IsBound (bound : String) : Prop :=
  bound ≠ "" ∧ ∀ c ∈ bound.toList, c ∉ [' ', ']', '\x7d']

/-- How tightly a text binds. -/
inductive Rank where
  | single
  | conjunction
  | alternatives

/-- A text of some rank and the condition that it is read as. -/
inductive Reads : Rank → String → Condition → Prop where
  | range {field low high : String} : IsName field → IsBound low → IsBound high →
      Reads .single (field ++ ":[" ++ low ++ " TO " ++ high ++ "]") (.within field low high)
  | group {text : String} {condition : Condition} : Reads .alternatives text condition →
      Reads .single ("(" ++ text ++ ")") condition
  | one {text : String} {condition : Condition} : Reads .single text condition →
      Reads .conjunction text condition
  | both {text rest : String} {first second : Condition} : Reads .single text first →
      Reads .conjunction rest second → Reads .conjunction (text ++ " AND " ++ rest) (.both first second)
  | all {text : String} {condition : Condition} : Reads .conjunction text condition →
      Reads .alternatives text condition
  | either {text rest : String} {first second : Condition} : Reads .conjunction text first →
      Reads .alternatives rest second →
      Reads .alternatives (text ++ " OR " ++ rest) (.either first second)

/-- What a text is taken for: it can be read, and whatever it is read as holds like the condition.
-/
def TakenFor (text : String) (condition : Condition) : Prop :=
  (∃ read, Reads .alternatives text read) ∧
    ∀ read, Reads .alternatives text read → ∀ within, read.Holds within ↔ condition.Holds within

/-! ## A text is read in one way only -/

/-- What may stand behind a text, so that the text does not go on. -/
def Ends : Rank → List Char → Prop
  | .single, _ => True
  | .conjunction, rest => ¬" AND ".toList <+: rest
  | .alternatives, rest => ¬" AND ".toList <+: rest ∧ ¬" OR ".toList <+: rest

/-- A closing parenthesis ends a condition of any rank. -/
theorem ends_parenthesis (rank : Rank) (rest : List Char) : Ends rank (')' :: rest) := by
  cases rank <;> simp [Ends]

/-- A further alternative ends a conjunction. -/
theorem ends_or (rest : List Char) : Ends .conjunction (" OR ".toList ++ rest) := by
  simp [Ends]

/-- Two ranges in front of any rest are the same range, because no name has a colon, no lower bound
a space and no upper bound a closing bracket. -/
theorem range_append_inj {field low high field' low' high' : String} {rest rest' : List Char}
    (hfield : IsName field) (hlow : IsBound low) (hhigh : IsBound high)
    (hfield' : IsName field') (hlow' : IsBound low') (hhigh' : IsBound high')
    (h : (field ++ ":[" ++ low ++ " TO " ++ high ++ "]").toList ++ rest =
      (field' ++ ":[" ++ low' ++ " TO " ++ high' ++ "]").toList ++ rest') :
    field = field' ∧ low = low' ∧ high = high' ∧ rest = rest' := by
  have hcolon : ∀ {name : String}, IsName name → ':' ∉ name.toList := by
    intro name hname hmem
    exact absurd (hname.2 ':' hmem) (by decide)
  have hspace : ∀ {bound : String}, IsBound bound → ' ' ∉ bound.toList :=
    fun hbound hmem => hbound.2 ' ' hmem (by decide)
  have hbracket : ∀ {bound : String}, IsBound bound → ']' ∉ bound.toList :=
    fun hbound hmem => hbound.2 ']' hmem (by decide)
  simp only [String.toList_append, List.append_assoc] at h
  obtain ⟨hname, h⟩ := Text.eq_and_eq_of_append_cons_eq (hcolon hfield) (hcolon hfield') h
  obtain ⟨hlower, h⟩ := Text.eq_and_eq_of_append_cons_eq (hspace hlow) (hspace hlow')
    (List.cons.inj h).2
  have h := (List.cons.inj (List.cons.inj (List.cons.inj h).2).2).2
  obtain ⟨hupper, h⟩ := Text.eq_and_eq_of_append_cons_eq (hbracket hhigh) (hbracket hhigh') h
  exact ⟨String.toList_inj.mp hname, String.toList_inj.mp hlower, String.toList_inj.mp hupper, h⟩

/-- A range does not begin with a parenthesis. -/
theorem range_ne_group {field low high text : String} {rest rest' : List Char} (hfield : IsName field) :
    (field ++ ":[" ++ low ++ " TO " ++ high ++ "]").toList ++ rest ≠
      ("(" ++ text ++ ")").toList ++ rest' := by
  intro h
  obtain ⟨c, name, hname⟩ := List.exists_cons_of_ne_nil (String.toList_eq_nil_iff.not.mpr hfield.1)
  have hc : c = '(' := by
    have hhead := congrArg List.head? h
    simpa [hname] using hhead
  have hreserved := hfield.2 c (by simp [hname])
  rw [hc] at hreserved
  exact absurd hreserved (by decide)

/-- A text in front of a rest that ends it: neither the condition nor the rest can be another. -/
theorem Reads.eq_of_append_eq {rank : Rank} {text text' : String} {condition condition' : Condition}
    (h : Reads rank text condition) (h' : Reads rank text' condition') {rest rest' : List Char}
    (heq : text.toList ++ rest = text'.toList ++ rest') (hends : Ends rank rest)
    (hends' : Ends rank rest') : condition = condition' ∧ rest = rest' := by
  -- By the derivation of one text. Where the other one was derived by a rule of the same rank that goes
  -- on longer or stops earlier, the rest of the shorter text begins with the connective, which `Ends`
  -- excludes.
  induction h generalizing text' condition' rest rest' with
  | range hfield hlow hhigh =>
    cases h' with
    | range hfield' hlow' hhigh' =>
      obtain ⟨rfl, rfl, rfl, hrest⟩ := range_append_inj hfield hlow hhigh hfield' hlow' hhigh' heq
      exact ⟨rfl, hrest⟩
    | group h' => exact absurd heq (range_ne_group hfield)
  | group h ih =>
    cases h' with
    | range hfield' hlow' hhigh' => exact absurd heq.symm (range_ne_group hfield')
    | group h' =>
      simp only [String.toList_append, List.append_assoc] at heq
      obtain ⟨hcondition, hrest⟩ := ih h' (List.cons.inj heq).2 (ends_parenthesis _ _)
        (ends_parenthesis _ _)
      exact ⟨hcondition, (List.cons.inj hrest).2⟩
  | one h ih =>
    cases h' with
    | one h' => exact ih h' heq trivial trivial
    | both hfirst' hsecond' =>
      simp only [String.toList_append, List.append_assoc] at heq
      obtain ⟨-, rfl⟩ := ih hfirst' heq trivial trivial
      exact absurd (List.prefix_append _ _) hends
  | both hfirst hsecond ihfirst ihsecond =>
    cases h' with
    | one h' =>
      simp only [String.toList_append, List.append_assoc] at heq
      obtain ⟨-, rfl⟩ := ihfirst h' heq trivial trivial
      exact absurd (List.prefix_append _ _) hends'
    | both hfirst' hsecond' =>
      simp only [String.toList_append, List.append_assoc] at heq
      obtain ⟨rfl, hrest⟩ := ihfirst hfirst' heq trivial trivial
      obtain ⟨rfl, hrest⟩ := ihsecond hsecond' (List.append_cancel_left hrest) hends hends'
      exact ⟨rfl, hrest⟩
  | all h ih =>
    cases h' with
    | all h' => exact ih h' heq hends.1 hends'.1
    | either hfirst' hsecond' =>
      simp only [String.toList_append, List.append_assoc] at heq
      obtain ⟨-, rfl⟩ := ih hfirst' heq hends.1 (ends_or _)
      exact absurd (List.prefix_append _ _) hends.2
  | either hfirst hsecond ihfirst ihsecond =>
    cases h' with
    | all h' =>
      simp only [String.toList_append, List.append_assoc] at heq
      obtain ⟨-, rfl⟩ := ihfirst h' heq (ends_or _) hends'.1
      exact absurd (List.prefix_append _ _) hends'.2
    | either hfirst' hsecond' =>
      simp only [String.toList_append, List.append_assoc] at heq
      obtain ⟨rfl, hrest⟩ := ihfirst hfirst' heq (ends_or _) (ends_or _)
      obtain ⟨rfl, hrest⟩ := ihsecond hsecond' (List.append_cancel_left hrest) hends hends'
      exact ⟨rfl, hrest⟩

/-- A text is read as at most one condition. -/
theorem Reads.unique {text : String} {condition condition' : Condition}
    (h : Reads .alternatives text condition) (h' : Reads .alternatives text condition') :
    condition = condition' :=
  (h.eq_of_append_eq h' (rfl : text.toList ++ [] = _) (by simp [Ends]) (by simp [Ends])).1

/-! ## What is written is read -/

/-- The rank that a condition is written with. -/
def rank : Condition → Rank
  | .within _ _ _ => .single
  | .either _ _ => .alternatives
  | .both _ _ => .single

/-- Conditions on plain names and bounds, with no alternatives right below a conjunction. -/
def IsPlain : Condition → Prop
  | .within field low high => IsName field ∧ IsBound low ∧ IsBound high
  | .either first second => first.IsPlain ∧ second.IsPlain
  | .both first second =>
    (first.IsPlain ∧ first.rank = .single) ∧ second.IsPlain ∧ second.rank = .single

/-- What is read at any rank is read as alternatives. -/
theorem Reads.alternatives {rank : Rank} {text : String} {condition : Condition}
    (h : Reads rank text condition) : Reads .alternatives text condition := by
  cases rank with
  | single => exact .all (.one h)
  | conjunction => exact .all h
  | alternatives => exact h

/-- Alternatives behind one another are read from the right, which changes the tree but not what it
means. -/
theorem Reads.exists_or {text rest : String} {first second : Condition}
    (h : Reads .alternatives text first) (h' : Reads .alternatives rest second) :
    ∃ read, Reads .alternatives (text ++ " OR " ++ rest) read ∧
      ∀ within, read.Holds within ↔ (Condition.either first second).Holds within := by
  -- The rank is a variable, so that the induction can go over all rules and keep the last two.
  generalize hrank : Rank.alternatives = rank at h
  induction h with
  | range | group | one | both => cases hrank
  | all h => exact ⟨_, .either h h', fun within => Iff.rfl⟩
  | @either _ _ head _ hfirst hsecond _ ih =>
    obtain ⟨read, hread, hholds⟩ := ih rfl
    refine ⟨.either head read, ?_, fun within => ?_⟩
    · simpa only [String.append_assoc] using Reads.either hfirst hread
    · rw [Holds, hholds, Holds, Holds, Holds, or_assoc]

/-- The text of a plain condition is read as one that holds of the same documents. -/
theorem exists_reads_text {condition : Condition} (h : condition.IsPlain) :
    ∃ read, Reads condition.rank condition.text read ∧
      ∀ within, read.Holds within ↔ condition.Holds within := by
  induction condition with
  | within field low high => exact ⟨_, .range h.1 h.2.1 h.2.2, fun within => Iff.rfl⟩
  | either first second ihfirst ihsecond =>
    obtain ⟨read, hread, hholds⟩ := ihfirst h.1
    obtain ⟨read', hread', hholds'⟩ := ihsecond h.2
    obtain ⟨both, hboth, hbothHolds⟩ := hread.alternatives.exists_or hread'.alternatives
    refine ⟨both, hboth, fun within => ?_⟩
    rw [hbothHolds, Holds, Holds, hholds, hholds']
  | both first second ihfirst ihsecond =>
    obtain ⟨⟨hfirst, hfirstRank⟩, hsecond, hsecondRank⟩ := h
    obtain ⟨read, hread, hholds⟩ := ihfirst hfirst
    obtain ⟨read', hread', hholds'⟩ := ihsecond hsecond
    rw [hfirstRank] at hread
    rw [hsecondRank] at hread'
    refine ⟨.both read read', ?_, fun within => ?_⟩
    · simpa only [rank, text, String.append_assoc] using Reads.group (.all (.both hread (.one hread')))
    · rw [Holds, Holds, hholds, hholds']

/-- A plain condition that is written is taken for itself. -/
theorem takenFor_text {condition : Condition} (h : condition.IsPlain) :
    TakenFor condition.text condition := by
  obtain ⟨read, hread, hholds⟩ := exists_reads_text h
  refine ⟨⟨read, hread.alternatives⟩, fun other hother => ?_⟩
  rw [hother.unique hread.alternatives]
  exact hholds

end FacetedSearch.Condition
