import FacetedSearch.Proofs.FieldGrammar

/-!
# The literals of a list

A list field writes its literals between quotes and does not change them, so that a literal may hold
a quote. Between two literals stands `" OR "`. A literal that has this text inside it is written
like two literals (`alternatives_split`). Where no literal does, the clause determines the literals
it was made of, whatever else they hold (`literals_eq_of_listClause_eq`).
-/

namespace FacetedSearch.Field

open Json (Scalar)

/-- What stands between two literals. -/
def separator : List Char := "\" OR \"".toList

/-- A literal with the separator in it, the closing quote included. -/
def BreaksOut (literal : String) : Prop := separator <:+: literal.toList ++ ['"']

/-! ## The text of a list of literals -/

/-- The literals between the outer quotes, each but the first one behind a separator. -/
def joined (first : String) (rest : List String) : List Char :=
  first.toList ++ rest.flatMap fun literal => separator ++ literal.toList

/-- Quoted literals with the connective between them are the joined ones between two quotes. -/
theorem intercalate_quoted (first : String) (rest : List String) :
    " OR ".toList.intercalate ((first :: rest).map fun literal => '"' :: literal.toList ++ ['"']) =
      '"' :: joined first rest ++ ['"'] := by
  induction rest generalizing first with
  | nil => simp [joined]
  | cons second rest ih =>
    have hrest := ih second
    simp only [List.map_cons] at hrest
    simp only [List.map_cons, List.intercalate_cons_cons, hrest]
    simp [joined, separator]

/-- The clause of several literals is the name and the joined literals in quotes. -/
theorem toList_alternatives (name first : String) (rest : List String) :
    (alternatives name (first :: rest)).text.toList =
      name.toList ++ ":(\"".toList ++ joined first rest ++ "\")".toList := by
  have hquote : (String.toList ∘ fun text => "\"" ++ text ++ "\"") =
      fun literal => '"' :: literal.toList ++ ['"'] := by
    funext literal
    simp
  simp only [alternatives, String.toList_append, String.toList_intercalate, List.map_map, hquote,
    intercalate_quoted]
  simp

/-- Lists with the same text between the outer quotes make the same clause, and no others do. -/
theorem alternatives_eq_iff {name first first' : String} {rest rest' : List String} :
    alternatives name (first :: rest) = alternatives name (first' :: rest') ↔
      joined first rest = joined first' rest' := by
  rw [Clause.eq_mk_iff, ← String.toList_inj, toList_alternatives, toList_alternatives,
    List.append_left_inj, List.append_right_inj]

/-- A literal with the separator in it is written like two literals. -/
theorem alternatives_split (name front back : String) (before after : List String) :
    alternatives name (before ++ (front ++ "\" OR \"" ++ back) :: after) =
      alternatives name (before ++ front :: back :: after) := by
  cases before with
  | nil =>
    rw [List.nil_append, List.nil_append, alternatives_eq_iff]
    simp [joined, separator]
  | cons first before =>
    rw [List.cons_append, List.cons_append, alternatives_eq_iff]
    simp [joined, separator]

/-! ## Literals that do not break out -/

/-- A separator starts anew inside a separator only at its last quote. -/
theorem length_eq_of_separator_eq_append {front back : List Char} (h : separator = front ++ back)
    (hfront : front ≠ []) (hquote : back.head? = some '"') : front.length = 5 := by
  have hback : back = separator.drop front.length := by rw [h, List.drop_left]
  have hpositive : 0 < front.length := List.length_pos_of_ne_nil hfront
  have hle : front.length ≤ separator.length := by
    rw [h, List.length_append]
    omega
  have hpositions : ∀ n ≤ separator.length, 0 < n → (separator.drop n).head? = some '"' → n = 5 := by
    decide
  rw [hback] at hquote
  exact hpositions front.length hle hpositive hquote

/-- What stands behind a literal. -/
def Follows (rest : List Char) : Prop := rest = [] ∨ ∃ more, rest = separator ++ more

/-- Behind a literal stands either nothing or a separator. -/
theorem follows_flatMap (literals : List String) :
    Follows (literals.flatMap fun literal => separator ++ literal.toList) := by
  cases literals with
  | nil => exact .inl rfl
  | cons literal literals =>
    refine .inr ⟨literal.toList ++ literals.flatMap fun literal => separator ++ literal.toList, ?_⟩
    simp

/-- A literal cannot be a longer one that goes on into the separator behind it. -/
theorem breaksOut_of_append_follows {literal : String} {front more rest rest' : List Char}
    (hliteral : literal.toList = front ++ more) (hmore : more ≠ []) (h : rest = more ++ rest')
    (hrest : Follows rest) (hrest' : Follows rest') : BreaksOut literal := by
  rw [BreaksOut, hliteral]
  rcases hrest with rfl | ⟨behind, rfl⟩
  · exact absurd (List.append_eq_nil_iff.mp h.symm).1 hmore
  rcases List.append_eq_append_iff.mp h with ⟨back, rfl, -⟩ | ⟨back, hseparator, rfl⟩
  · exact ⟨front, back ++ ['"'], by simp⟩
  · -- Only a part of the separator is in the literal; the part that is left has to begin with a quote.
    have hlength : more.length = 5 ∨ back = [] := by
      cases hback : back with
      | nil => exact .inr rfl
      | cons c back' =>
        refine .inl (length_eq_of_separator_eq_append hseparator hmore ?_)
        rcases hrest' with hnil | ⟨behind', hbehind'⟩
        · simp [hback] at hnil
        · have hhead := congrArg List.head? hbehind'
          simpa [hback, separator] using hhead
    rcases hlength with hlength | rfl
    · have hmore : more = separator.take 5 := by rw [hseparator, ← hlength, List.take_left]
      exact ⟨front, [], by simp [hmore, separator]⟩
    · rw [List.append_nil] at hseparator
      exact ⟨front, ['"'], by rw [← hseparator]⟩

/-- A literal that does not break out ends where the separator behind it begins. -/
theorem eq_of_append_follows {first first' : String} {rest rest' : List Char}
    (hfirst : ¬BreaksOut first) (hfirst' : ¬BreaksOut first')
    (h : first.toList ++ rest = first'.toList ++ rest') (hrest : Follows rest)
    (hrest' : Follows rest') : first = first' ∧ rest = rest' := by
  rcases List.append_eq_append_iff.mp h with ⟨more, hliteral, hmore⟩ | ⟨more, hliteral, hmore⟩
  · by_cases hnil : more = []
    · rw [hnil, List.append_nil] at hliteral
      exact ⟨String.toList_inj.mp hliteral.symm, by rw [hmore, hnil, List.nil_append]⟩
    · exact absurd (breaksOut_of_append_follows hliteral hnil hmore hrest hrest') hfirst'
  · by_cases hnil : more = []
    · rw [hnil, List.append_nil] at hliteral
      exact ⟨String.toList_inj.mp hliteral, by rw [hmore, hnil, List.nil_append]⟩
    · exact absurd (breaksOut_of_append_follows hliteral hnil hmore hrest' hrest) hfirst

/-- Literals that do not break out can be told from the text between the outer quotes. -/
theorem eq_of_joined_eq {first first' : String} {rest rest' : List String}
    (h : ∀ literal ∈ first :: rest, ¬BreaksOut literal)
    (h' : ∀ literal ∈ first' :: rest', ¬BreaksOut literal)
    (hjoined : joined first rest = joined first' rest') : first :: rest = first' :: rest' := by
  -- The first literals agree and so does what is behind them. It begins with a separator on both sides
  -- or on none.
  induction rest generalizing first first' rest' with
  | nil =>
    obtain ⟨rfl, hrest⟩ := eq_of_append_follows (h _ List.mem_cons_self) (h' _ List.mem_cons_self)
      hjoined (follows_flatMap []) (follows_flatMap rest')
    cases rest' with
    | nil => rfl
    | cons second' rest' => simp [separator] at hrest
  | cons second rest ih =>
    obtain ⟨rfl, hrest⟩ := eq_of_append_follows (h _ List.mem_cons_self) (h' _ List.mem_cons_self)
      hjoined (follows_flatMap (second :: rest)) (follows_flatMap rest')
    cases rest' with
    | nil => simp [separator] at hrest
    | cons second' rest' =>
      simp only [List.flatMap_cons, List.append_assoc, List.append_right_inj] at hrest
      rw [ih (fun literal hliteral => h literal (List.mem_cons_of_mem _ hliteral))
        (fun literal hliteral => h' literal (List.mem_cons_of_mem _ hliteral)) hrest]

/-! ## List fields -/

/-- Items that spell texts have those texts. -/
theorem map_scalarText?_of_forall₂ {items : List Json} {texts : List String}
    (h : List.Forall₂ Scalar items texts) : items.map Json.scalarText? = texts.map some := by
  induction h with
  | nil => rfl
  | cons hitem _ ih => rw [List.map_cons, List.map_cons, Json.scalarText?_eq_some_iff.mpr hitem, ih]

/-- A list of scalars makes the clause of their texts. -/
theorem exists_listClause_eq {field : Field} {items : List Json} (hvalue : field.value = .list items)
    (hitems : items ≠ []) (hscalars : ∀ item ∈ items, item.IsScalar) :
    ∃ first rest, field.listClause = .ok (alternatives field.name (first :: rest)) ∧
      items.map Json.scalarText? = (first :: rest).map some := by
  obtain ⟨texts, htexts⟩ := exists_forall₂_scalar_iff.mpr hscalars
  have hmap := map_scalarText?_of_forall₂ htexts
  cases texts with
  | nil => exact absurd (List.map_eq_nil_iff.mp hmap) hitems
  | cons first rest =>
    refine ⟨first, rest, ?_, hmap⟩
    rw [listClause_eq_map hvalue hitems, literalsOf_eq_ok_iff.mpr htexts]
    rfl

/-- Two lists of scalars that make the same clause have the same texts at every position, if no text
breaks out of its quotes. -/
theorem literals_eq_of_listClause_eq {field other : Field} {items items' : List Json}
    (hname : field.name = other.name) (hvalue : field.value = .list items)
    (hvalue' : other.value = .list items') (hitems : items ≠ []) (hitems' : items' ≠ [])
    (hscalars : ∀ item ∈ items ++ items', item.IsScalar)
    (hinside : ∀ item ∈ items ++ items', ∀ text, item.scalarText? = some text → ¬BreaksOut text)
    (hclause : field.listClause = other.listClause) :
    items.length = items'.length ∧ items.map Json.scalarText? = items'.map Json.scalarText? := by
  obtain ⟨hscalars, hscalars'⟩ := List.forall_mem_append.mp hscalars
  obtain ⟨hinside, hinside'⟩ := List.forall_mem_append.mp hinside
  obtain ⟨first, rest, hfield, hmap⟩ := exists_listClause_eq hvalue hitems hscalars
  obtain ⟨first', rest', hother, hmap'⟩ := exists_listClause_eq hvalue' hitems' hscalars'
  have hjoined : joined first rest = joined first' rest' := by
    rw [hfield, hother, ← hname] at hclause
    exact alternatives_eq_iff.mp (Except.ok.inj hclause)
  have hstays : ∀ {items : List Json} {texts : List String},
      items.map Json.scalarText? = texts.map some →
      (∀ item ∈ items, ∀ text, item.scalarText? = some text → ¬BreaksOut text) →
      ∀ literal ∈ texts, ¬BreaksOut literal := by
    intro items texts hmap hinside literal hliteral
    have hsome : some literal ∈ items.map Json.scalarText? := by
      rw [hmap]
      exact List.mem_map_of_mem hliteral
    obtain ⟨item, hitem, htext⟩ := List.mem_map.mp hsome
    exact hinside item hitem literal htext
  have hliterals := eq_of_joined_eq (hstays hmap hinside) (hstays hmap' hinside') hjoined
  have htexts : items.map Json.scalarText? = items'.map Json.scalarText? := by
    rw [hmap, hliterals, hmap']
  exact ⟨by simpa using congrArg List.length htexts, htexts⟩

/-- A quote in a literal does no harm as long as no separator comes of it. -/
theorem literals_eq_of_listClause_eq_quote :
    let items : List Json := [.text "5\"", .ofUInt64 7]
    let items' : List Json := [.text "5\"", .text "7"]
    let field : Field := ⟨"tags_ss", .listFacet, .list items, none, none, none⟩
    let other : Field := ⟨"tags_ss", .listFacet, .list items', none, none, none⟩
    field.listClause = other.listClause ∧
      items.map Json.scalarText? = items'.map Json.scalarText? := by
  intro items items' field other
  have hclause : field.listClause = other.listClause := rfl
  have hscalars : ∀ item ∈ items ++ items', item.IsScalar := by
    simp [items, items', Json.IsScalar, Json.ofUInt64]
  have hdisk : ¬BreaksOut "5\"" := by
    rw [BreaksOut, separator]
    decide
  have hseven : ¬BreaksOut "7" := by
    rw [BreaksOut, separator]
    decide
  have htexts : (items ++ items').map Json.scalarText? =
      [some "5\"", some "7", some "5\"", some "7"] := rfl
  have hinside : ∀ item ∈ items ++ items', ∀ text, item.scalarText? = some text →
      ¬BreaksOut text := by
    intro item hitem text htext
    have hmem := List.mem_map_of_mem (f := Json.scalarText?) hitem
    rw [htexts, htext] at hmem
    have hcases : text = "5\"" ∨ text = "7" := by
      simp only [List.mem_cons, Option.some.injEq, List.not_mem_nil] at hmem
      tauto
    rcases hcases with rfl | rfl
    · exact hdisk
    · exact hseven
  have hname : field.name = other.name := rfl
  have hvalue : field.value = .list items := rfl
  have hvalue' : other.value = .list items' := rfl
  exact ⟨hclause, (literals_eq_of_listClause_eq hname hvalue hvalue' (List.cons_ne_nil _ _)
    (List.cons_ne_nil _ _) hscalars hinside hclause).2⟩

/-- One literal with a separator in it makes the clause of two literals. -/
theorem listClause_eq_of_separator :
    let field : Field := ⟨"tags_ss", .listFacet, .list [.text "a\" OR \"b"], none, none, none⟩
    let other : Field := ⟨"tags_ss", .listFacet, .list [.text "a", .text "b"], none, none, none⟩
    field.listClause = other.listClause ∧
      field.listClause = .ok ⟨"tags_ss:(\"a\" OR \"b\")"⟩ ∧
      [Json.text "a\" OR \"b"].length ≠ [Json.text "a", Json.text "b"].length := by
  intro field other
  have hsplit := alternatives_split "tags_ss" "a" "b" [] []
  have hfield : field.listClause = .ok (alternatives "tags_ss" ["a" ++ "\" OR \"" ++ "b"]) := rfl
  have hother : other.listClause = .ok (alternatives "tags_ss" ["a", "b"]) := rfl
  refine ⟨?_, rfl, by decide⟩
  rw [hfield, hother]
  exact congrArg Except.ok hsplit

end FacetedSearch.Field
