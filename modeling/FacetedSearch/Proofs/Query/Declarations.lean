import FacetedSearch.Query.Assembly

/-!
# Declared facets

`Facets.declared` goes through the names that come up and keeps each where it first does, as
`List.eraseDups` does (`foldl_declare`); what it keeps is what comes up (`mem_declared_iff`). A
field that makes a clause on the path field makes that field come up.

`facetFields_eq_first_mentions` is this for a whole request. The names are the counted fields, the
ends of periods and the path field, in this order, and no other field has a part in them.
-/

namespace FacetedSearch

namespace Facets

/-! ## Declaring names one by one -/

/-- Declaring a name once more changes nothing. -/
theorem declare_of_mem {declared : List String} {name : String} (h : name ∈ declared) :
    declare declared name = declared := by
  rw [declare, if_pos (List.contains_iff_mem.mpr h)]

/-- A name that has not been declared is added behind the others. -/
theorem declare_of_not_mem {declared : List String} {name : String} (h : name ∉ declared) :
    declare declared name = declared ++ [name] := by
  rw [declare, if_neg (fun hname => h (List.contains_iff_mem.mp hname))]

/-- A name is declared once it has been. -/
theorem mem_declare_self (declared : List String) (name : String) :
    name ∈ declare declared name := by
  by_cases h : name ∈ declared
  · rwa [declare_of_mem h]
  · rw [declare_of_not_mem h]
    exact List.mem_append_right _ List.mem_cons_self

/-- Declaring keeps the names distinct. -/
theorem nodup_declare {declared : List String} (h : declared.Nodup) (name : String) :
    (declare declared name).Nodup := by
  by_cases hname : name ∈ declared
  · rwa [declare_of_mem hname]
  · rw [declare_of_not_mem hname]
    have hother : ∀ other ∈ declared, other ≠ name := by
      rintro other hother rfl
      exact hname hother
    simpa [List.nodup_append] using ⟨h, hother⟩

/-- Declaring several names keeps them distinct. -/
theorem nodup_foldl_declare (names : List String) {declared : List String} (h : declared.Nodup) :
    (names.foldl declare declared).Nodup := by
  induction names generalizing declared with
  | nil => exact h
  | cons name names ih => exact ih (nodup_declare h name)

/-- Names that are all declared change nothing. -/
theorem foldl_declare_of_forall_mem {names declared : List String}
    (h : ∀ name ∈ names, name ∈ declared) : names.foldl declare declared = declared := by
  induction names with
  | nil => rfl
  | cons name names ih =>
    obtain ⟨hname, hnames⟩ := List.forall_mem_cons.mp h
    rw [List.foldl_cons, declare_of_mem hname, ih hnames]

/-- One more mention is a declaration on top of the first mentions. -/
theorem eraseDups_concat (names : List String) (name : String) :
    (names ++ [name]).eraseDups = declare names.eraseDups name := by
  rw [List.eraseDups_append]
  by_cases hname : name ∈ names
  · rw [declare_of_mem (List.mem_eraseDups.mpr hname)]
    simp [List.removeAll, hname]
  · rw [declare_of_not_mem (mt List.mem_eraseDups.mp hname)]
    simp [List.removeAll, hname, List.eraseDups_cons]

/-- The names in front are what is declared so far. -/
theorem foldl_declare_eraseDups (front names : List String) :
    names.foldl declare front.eraseDups = (front ++ names).eraseDups := by
  induction names generalizing front with
  | nil => rw [List.foldl_nil, List.append_nil]
  | cons name names ih =>
    rw [List.foldl_cons, ← eraseDups_concat, ih, List.append_assoc, List.singleton_append]

/-- Declaring names one after the other keeps their first mentions. -/
theorem foldl_declare (names : List String) : names.foldl declare [] = names.eraseDups :=
  foldl_declare_eraseDups [] names

/-- The declared names are the mentioned ones. -/
theorem mem_declared_iff (searchFields : List Field) (contributions : List Contribution)
    (name : String) :
    name ∈ declared searchFields contributions ↔ name ∈ mentioned searchFields contributions := by
  rw [declared, foldl_declare, List.mem_eraseDups]

/-- A name that is declared already can be left out. -/
theorem foldl_declare_append_cons {front : List String} {name : String} (behind : List String)
    (h : name ∈ front.foldl declare []) :
    (front ++ name :: behind).foldl declare [] = (front ++ behind).foldl declare [] := by
  rw [List.foldl_append, List.foldl_append, List.foldl_cons, declare_of_mem h]

/-- Of names that are all the same the first one is enough. -/
theorem eraseDups_append_of_forall_eq {front names : List String} {name : String}
    (hnames : names ≠ []) (h : ∀ other ∈ names, other = name) :
    (front ++ names).eraseDups = (front ++ [name]).eraseDups := by
  cases names with
  | nil => exact absurd rfl hnames
  | cons first names =>
    obtain ⟨rfl, hrest⟩ := List.forall_mem_cons.mp h
    -- Once the first is declared, the others change nothing.
    have hdeclared : ∀ other ∈ names, other ∈ declare front.eraseDups first := by
      intro other hother
      rw [hrest other hother, ← eraseDups_concat, List.mem_eraseDups]
      exact List.mem_append_right _ List.mem_cons_self
    rw [← foldl_declare_eraseDups, List.foldl_cons, foldl_declare_of_forall_mem hdeclared,
      eraseDups_concat]

end Facets

/-! ## The ends of periods -/

namespace Field

/-- No other kind than a period to be counted declares the ends of a period. -/
theorem periodFacets_of_kind_ne {field : Field} (h : field.kind ≠ .periodRangeFacet) :
    field.periodFacets = [] := by
  rw [periodFacets]
  split
  · rename_i hkind _ _
    exact absurd hkind h
  · rfl

/-- A period to be counted declares both of its ends if both are named. -/
theorem periodFacets_of_kind_eq {field : Field} (h : field.kind = .periodRangeFacet) :
    field.periodFacets =
      match field.lower, field.upper with
      | some lower, some upper => [lower, upper]
      | _, _ => [] := by
  cases hlower : field.lower <;> cases hupper : field.upper <;>
    simp only [periodFacets, h, hlower, hupper]

end Field

/-! ## The path field -/

namespace Contribution

/-- An outcome that is kept as a clause on a path field was to be kept so. -/
theorem ofOutcome_filter_ne_path (outcome : Outcome) (facetField : String) (clause : Clause) :
    ofOutcome .filter outcome ≠ .path facetField clause := by
  cases outcome <;> simp [ofOutcome]

/-- The path field of a contribution is the one that a clause is kept on. -/
theorem pathField?_eq_some_iff {contribution : Contribution} {name : String} :
    contribution.pathField? = some name ↔ ∃ clause, contribution = .path name clause := by
  cases contribution <;> simp [pathField?]

/-- Without a clause kept on it there is no path field. -/
theorem pathField?_eq_none_iff {contribution : Contribution} :
    contribution.pathField? = none ↔
      ∀ facetField clause, contribution ≠ .path facetField clause := by
  cases contribution <;> simp [pathField?]

/-- Whether a clause is kept on a path field is read off the constructor. -/
instance : (contribution : Contribution) →
    Decidable (∃ facetField clause, contribution = .path facetField clause)
  | .path facetField clause => .isTrue ⟨facetField, clause, rfl⟩
  | .filter _ => .isFalse fun ⟨_, _, h⟩ => Contribution.noConfusion h
  | .skipped _ => .isFalse fun ⟨_, _, h⟩ => Contribution.noConfusion h

end Contribution

/-- Only a field with the name of the path field makes a clause on it. -/
theorem Field.name_of_contribution_eq_path {field : Field} {config : Config} {facetField : String}
    {clause : Clause} (h : field.contribution config = .path facetField clause) :
    field.name = config.pathField ∧ facetField = config.pathField := by
  rw [Field.contribution] at h
  by_cases hname : field.name = config.pathField
  · rw [if_pos hname] at h
    cases houtcome : field.pathClause with
    | error reason =>
      rw [houtcome, Contribution.ofOutcome] at h
      cases h
    | ok kept =>
      rw [houtcome, Contribution.ofOutcome] at h
      cases h
      exact ⟨hname, hname⟩
  · rw [if_neg hname] at h
    exact absurd h (Contribution.ofOutcome_filter_ne_path field.kindClause facetField clause)

/-- The only name that a clause on a path field brings up is that of the configured one. -/
theorem Field.eq_of_pathField?_contribution {field : Field} {config : Config} {name : String}
    (h : (field.contribution config).pathField? = some name) : name = config.pathField := by
  obtain ⟨clause, hpath⟩ := Contribution.pathField?_eq_some_iff.mp h
  exact (Field.name_of_contribution_eq_path hpath).2

namespace Request

variable {request : Request} {config : Config}

/-- The entries of a report are those of the fields of the request. -/
theorem exists_field_of_mem_explain {entry : Entry} (h : entry ∈ request.explain config) :
    ∃ field ∈ request.fields, entry = Entry.ofField config field := by
  obtain ⟨field, hfield, rfl⟩ := List.mem_map.mp h
  exact ⟨field, hfield, rfl⟩

/-- A clause on the path field declares the configured path field. -/
theorem facetField_of_mem_explain {entry : Entry} {facetField : String} {clause : Clause}
    (h : entry ∈ request.explain config) (hpath : entry.contribution = .path facetField clause) :
    facetField = config.pathField ∧ config.pathField ∈ request.facetFields config := by
  obtain ⟨field, _, rfl⟩ := exists_field_of_mem_explain h
  have hname := (Field.name_of_contribution_eq_path hpath).2
  have hmentioned : facetField ∈
      (request.contributions config).filterMap Contribution.pathField? := by
    refine List.mem_filterMap.mpr ⟨.path facetField clause, ?_, rfl⟩
    exact List.mem_map.mpr ⟨Entry.ofField config field, h, hpath⟩
  refine ⟨hname, ?_⟩
  rw [facetFields, Facets.mem_declared_iff, Facets.mentioned, ← hname]
  exact List.mem_append_right _ hmentioned

/-- The names that come up, read off the fields of the request. -/
theorem mentioned_eq (request : Request) (config : Config) :
    Facets.mentioned request.searchFields (request.contributions config) =
      (request.searchFields.filter (·.kind.countsField)).map (·.name) ++
        request.searchFields.flatMap Field.periodFacets ++
        (request.searchFields ++ request.filters).filterMap
          fun field => (field.contribution config).pathField? := by
  rw [Facets.mentioned, contributions, explain, List.map_map, List.filterMap_map]
  rfl

/-- The declared names are the first mentions of all mentioned ones. -/
theorem facetFields_eq_eraseDups (request : Request) (config : Config) :
    request.facetFields config =
      (Facets.mentioned request.searchFields (request.contributions config)).eraseDups :=
  Facets.foldl_declare _

/-- No name is declared twice. -/
theorem nodup_facetFields (request : Request) (config : Config) :
    (request.facetFields config).Nodup :=
  Facets.nodup_foldl_declare _ List.nodup_nil

/-- Whatever fields are on the path field, one mention of it is enough. -/
theorem eraseDups_append_filterMap_path (front : List String) (fields : List Field) :
    (front ++ fields.filterMap fun field => (field.contribution config).pathField?).eraseDups =
      (front ++ if ∃ field ∈ fields, ∃ facetField clause,
          field.contribution config = .path facetField clause
        then [config.pathField] else []).eraseDups := by
  -- All fields on the path field bring up one name, the configured one.
  split
  · rename_i hpath
    obtain ⟨field, hfield, facetField, clause, hcontribution⟩ := hpath
    have hname : (field.contribution config).pathField? = some facetField :=
      Contribution.pathField?_eq_some_iff.mpr ⟨clause, hcontribution⟩
    refine Facets.eraseDups_append_of_forall_eq (List.ne_nil_of_mem (a := facetField) ?_) ?_
    · exact List.mem_filterMap.mpr ⟨field, hfield, hname⟩
    · intro other hother
      obtain ⟨field, _, hother⟩ := List.mem_filterMap.mp hother
      exact Field.eq_of_pathField?_contribution hother
  · rename_i hpath
    have hnone : (fields.filterMap fun field => (field.contribution config).pathField?) = [] := by
      refine List.filterMap_eq_nil_iff.mpr fun field hfield => ?_
      refine Contribution.pathField?_eq_none_iff.mpr fun facetField clause hcontribution => ?_
      exact hpath ⟨field, hfield, facetField, clause, hcontribution⟩
    rw [hnone]

/-- The kinds that declare their own name are lists, ranges and ranges of dates to be counted. -/
theorem filter_countsField (fields : List Field) :
    fields.filter (·.kind.countsField) = fields.filter fun field =>
      field.kind = .listFacet ∨ field.kind = .rangeFacet ∨ field.kind = .dateRangeFacet := by
  refine List.filter_congr fun field _ => ?_
  cases field.kind <;> simp [Kind.countsField]

/-- The ends that are declared are those of the periods to be counted, field by field. -/
theorem flatMap_periodFacets (fields : List Field) :
    fields.flatMap Field.periodFacets =
      (fields.filter fun field => field.kind = .periodRangeFacet).flatMap fun field =>
        match field.lower, field.upper with
        | some lower, some upper => [lower, upper]
        | _, _ => [] := by
  induction fields with
  | nil => rfl
  | cons field fields ih =>
    rw [List.flatMap_cons, ih]
    by_cases hkind : field.kind = .periodRangeFacet
    · rw [List.filter_cons_of_pos (by simpa using hkind), List.flatMap_cons,
        Field.periodFacets_of_kind_eq hkind]
    · rw [List.filter_cons_of_neg (by simpa using hkind), Field.periodFacets_of_kind_ne hkind,
        List.nil_append]

/-- The names of the search fields to be counted. -/
theorem mem_countedNames_iff (fields : List Field) (name : String) :
    name ∈ (fields.filter (·.kind.countsField)).map (·.name) ↔
      ∃ field ∈ fields, field.name = name ∧
        (field.kind = .listFacet ∨ field.kind = .rangeFacet ∨ field.kind = .dateRangeFacet) := by
  rw [filter_countsField]
  simp only [List.mem_map, List.mem_filter, decide_eq_true_eq, and_assoc]
  exact exists_congr fun field => and_congr_right fun _ => and_comm

/-- The ends of the periods to be counted. -/
theorem mem_periodEnds_iff (fields : List Field) (name : String) :
    name ∈ fields.flatMap Field.periodFacets ↔
      ∃ field ∈ fields, field.kind = .periodRangeFacet ∧ ∃ lower upper,
        field.lower = some lower ∧ field.upper = some upper ∧ (lower = name ∨ upper = name) := by
  rw [List.mem_flatMap]
  refine exists_congr fun field => and_congr_right fun _ => ?_
  by_cases hkind : field.kind = .periodRangeFacet
  · rw [Field.periodFacets_of_kind_eq hkind]
    cases field.lower with
    | none => simp
    | some lower => cases field.upper <;> simp [hkind, @eq_comm _ name]
  · rw [Field.periodFacets_of_kind_ne hkind]
    simp [hkind]

/-- A search field that is neither counted nor a period to count has no part in what comes up,
unless it is on the path field. -/
theorem facetFields_append_cons {before after : List Field} {field : Field}
    (hcounts : field.kind.countsField = false) (hperiod : field.kind ≠ .periodRangeFacet)
    (hpath : (field.contribution config).pathField? = none) :
    ({ request with searchFields := before ++ field :: after } : Request).facetFields config =
      ({ request with searchFields := before ++ after } : Request).facetFields config := by
  rw [facetFields_eq_eraseDups, facetFields_eq_eraseDups, mentioned_eq, mentioned_eq]
  simp [hcounts, Field.periodFacets_of_kind_ne hperiod, hpath]

/-- The names come from the counted search fields, the periods and the fields on the path field, in
this order, each where it first comes up. No other field has a part in them, and no name has one
twice. -/
theorem facetFields_eq_first_mentions (request : Request) (config : Config) :
    (request.facetFields config).Nodup ∧
    request.facetFields config =
      ((request.searchFields.filter fun field =>
          field.kind = .listFacet ∨ field.kind = .rangeFacet ∨ field.kind = .dateRangeFacet).map
            (·.name) ++
        (request.searchFields.filter fun field => field.kind = .periodRangeFacet).flatMap
          (fun field =>
            match field.lower, field.upper with
            | some lower, some upper => [lower, upper]
            | _, _ => []) ++
        if ∃ field ∈ request.searchFields ++ request.filters, ∃ facetField clause,
            field.contribution config = .path facetField clause
          then [config.pathField] else []).eraseDups ∧
    (∀ before field after,
      (field.kind = .range ∨ field.kind = .periodRange ∨ field.kind = .text ∨
        ∃ tag, field.kind = .unrecognized tag) →
      (∀ facetField clause, field.contribution config ≠ .path facetField clause) →
      ({ request with searchFields := before ++ field :: after } : Request).facetFields config =
        ({ request with searchFields := before ++ after } : Request).facetFields config) ∧
    (∀ before field after,
      (∀ facetField clause, field.contribution config ≠ .path facetField clause) →
      ({ request with filters := before ++ field :: after } : Request).facetFields config =
        ({ request with filters := before ++ after } : Request).facetFields config) ∧
    ∀ front name behind, name ∈ front.foldl Facets.declare [] →
      (front ++ name :: behind).foldl Facets.declare [] = (front ++ behind).foldl Facets.declare [] := by
  refine ⟨Facets.nodup_foldl_declare _ List.nodup_nil, ?_, ?_, ?_, ?_⟩
  · rw [facetFields_eq_eraseDups, mentioned_eq, eraseDups_append_filterMap_path,
      filter_countsField, flatMap_periodFacets]
  · intro before field after hkind hpath
    have hcounts : field.kind.countsField = false := by
      rcases hkind with hkind | hkind | hkind | ⟨tag, hkind⟩ <;> rw [hkind] <;> rfl
    have hperiod : field.kind ≠ .periodRangeFacet := by
      rcases hkind with hkind | hkind | hkind | ⟨tag, hkind⟩ <;> simp [hkind]
    exact facetFields_append_cons hcounts hperiod (Contribution.pathField?_eq_none_iff.mpr hpath)
  · intro before field after hpath
    rw [facetFields_eq_eraseDups, facetFields_eq_eraseDups, mentioned_eq, mentioned_eq]
    simp [Contribution.pathField?_eq_none_iff.mpr hpath]
  · intro front name behind hname
    exact Facets.foldl_declare_append_cons behind hname

/-- The low end of a period is a list facet as well, and only a filter is on the path field. -/
theorem facetFields_eq_first_mentions_colliding :
    let skipped : Field := ⟨"start_i", .listFacet, .null, none, none, none⟩
    let words : Field := ⟨"notes_t", .text, .text "budget", none, none, none⟩
    let period : Field := ⟨"period", .periodRangeFacet, .null, some "start_i", some "end_i", none⟩
    let path : Field := ⟨"path_s", .text, .text "/inbox", none, none, none⟩
    let free : Field := ⟨"tags_ss", .listFacet, .list [.text "a"], none, none, none⟩
    let request : Request :=
      ⟨[skipped, words, period], [path, free], [], 10, none, none, none, .pages⟩
    path.contribution .standard = .path "path_s" ⟨"path_s:/inbox"⟩ ∧
      request.facetFields .standard = ["start_i", "end_i", "path_s"] ∧
      ({ request with filters := [free] } : Request).facetFields .standard =
        ["start_i", "end_i"] ∧
      ({ request with searchFields := [skipped, period] } : Request).facetFields .standard =
        request.facetFields .standard ∧
      ({ request with filters := [path] } : Request).facetFields .standard =
        request.facetFields .standard ∧
      "start_i" ∈ ["start_i"].foldl Facets.declare [] ∧
      ["start_i", "start_i", "path_s"].foldl Facets.declare [] =
        ["start_i", "path_s"].foldl Facets.declare [] := by
  intro skipped words period path free request
  obtain ⟨-, hnames, hsearch, hfilters, hagain⟩ := facetFields_eq_first_mentions request .standard
  have hwithout :=
    (facetFields_eq_first_mentions { request with filters := [free] } .standard).2.1
  have hpath : path.contribution .standard = .path "path_s" ⟨"path_s:/inbox"⟩ := by decide
  have hwords : ∀ facetField clause,
      words.contribution .standard ≠ .path facetField clause := by
    rintro facetField clause ⟨⟩
  have hfree : ∀ facetField clause, free.contribution .standard ≠ .path facetField clause := by
    rintro facetField clause ⟨⟩
  have hdeclared : "start_i" ∈ ["start_i"].foldl Facets.declare [] := by decide
  refine ⟨hpath, hnames.trans ?_, hwithout.trans ?_, ?_, ?_, hdeclared, ?_⟩
  · decide
  · decide
  · exact (hsearch [skipped] words [period] (.inr (.inr (.inl rfl))) hwords).symm
  · exact (hfilters [path] free [] hfree).symm
  · exact hagain ["start_i"] "start_i" ["path_s"] hdeclared

end Request

end FacetedSearch
