import FacetedSearch.Query.Assembly
import FacetedSearch.Proofs.Text.PercentDecoding
import Mathlib.Data.List.DropRight

/-!
# The parameters in front of the format

The parameters of a query fall into two parts: those that the library chooses the keys of, and
behind them the pairs of the output format, whose keys the caller chooses. `leadingParameters` is
the first part as it is meant and `leadingParams` the same part as it is written.

What stands under a key in the first part is computed group by group. Every group has one fixed key,
except the orders of counts; `overrideKey_ne` keeps their keys apart from the fixed ones.
-/

namespace FacetedSearch

/-! ## Values under a key -/

namespace Parameter

/-- The values that stand under a key, in order. -/
def valuesAt (key : String) (parameters : List Parameter) : List String :=
  (parameters.filter (·.key == key)).map (·.value)

@[simp]
theorem valuesAt_nil (key : String) : valuesAt key [] = [] := rfl

@[simp]
theorem valuesAt_cons (key : String) (p : Parameter) (parameters : List Parameter) :
    valuesAt key (p :: parameters) =
      if p.key = key then p.value :: valuesAt key parameters else valuesAt key parameters := by
  by_cases h : p.key = key <;> simp [valuesAt, h]

/-- The values of parameters one behind the other are those of both, in order. -/
@[simp]
theorem valuesAt_append (key : String) (first second : List Parameter) :
    valuesAt key (first ++ second) = valuesAt key first ++ valuesAt key second := by
  simp [valuesAt]

/-- There are no values at a key that no parameter has. -/
theorem valuesAt_eq_nil {key : String} {parameters : List Parameter}
    (h : ∀ p ∈ parameters, p.key ≠ key) : valuesAt key parameters = [] := by
  rw [valuesAt, List.map_eq_nil_iff, List.filter_eq_nil_iff]
  intro p hp
  simpa using h p hp

/-- A group with one key has all its values under that key and none under another. -/
theorem valuesAt_of_forall_key_eq {groupKey : String} {parameters : List Parameter}
    (h : ∀ p ∈ parameters, p.key = groupKey) (key : String) :
    valuesAt key parameters = if groupKey = key then parameters.map (·.value) else [] := by
  by_cases hkey : groupKey = key
  · have hall : parameters.filter (·.key == key) = parameters := by
      rw [List.filter_eq_self]
      intro p hp
      simpa [hkey] using h p hp
    rw [valuesAt, hall, if_pos hkey]
  · rw [if_neg hkey]
    apply valuesAt_eq_nil
    intro p hp
    rw [h p hp]
    exact hkey

end Parameter

open Parameter (valuesAt)

/-- Written pairs have under an encoded key what the parameters have under that key, encoded. -/
theorem Params.getAll_ofParameters (parameters : List Parameter) (key : String) :
    (Params.ofParameters parameters).getAll (Text.Percent.encode key) =
      (valuesAt key parameters).map Text.Percent.encode := by
  induction parameters with
  | nil => rfl
  | cons p parameters ih =>
    simp only [Params.getAll, Params.ofParameters, List.map_cons] at ih ⊢
    by_cases h : p.key = key
    · subst h
      simp [ih]
    -- Keys that differ are written differently, so nothing is found under the wrong one.
    · have hne : Text.Percent.encode p.key ≠ Text.Percent.encode key :=
        fun hkeys => h (Text.Percent.encode_injective hkeys)
      simp [h, hne, ih]

/-- Decoding what a key has in written pairs gives back what it was meant to have. -/
theorem Params.map_decode?_getAll (parameters : List Parameter) (key : String) :
    ((Params.ofParameters parameters).getAll (Text.Percent.encode key)).map Text.Percent.decode? =
      (valuesAt key parameters).map some := by
  simp [Params.getAll_ofParameters]

/-- A text that counts as absent when it is empty, in terms of the text that does not. -/
theorem nonEmptyOr_eq_getD (text : Option String) (default : String) :
    nonEmptyOr text default = (text.filter (· ≠ "")).getD default := by
  cases text with
  | none => rfl
  | some text => by_cases h : text = "" <;> simp [nonEmptyOr, Option.filter, h]

namespace Request

/-! ## Two parts of a query -/

section

variable (request : Request) (config : Config) (format : Format) (suppress : Bool)

/-- The parameters in front of those of the format. -/
def leadingParameters : List Parameter :=
  ⟨"q", config.base suppress⟩ :: request.clauseParameters config ++
    request.sortParameter config :: request.facetParameters config ++
    request.overrideParameters ++
    numberParameter "rows" request.rows.toNat :: request.startParameters ++
    request.cursorParameters ++ request.countParameters

/-- The same parameters as they are written: all pairs of a query but those of the format. -/
def leadingParams : Params :=
  ⟨(request.params config format suppress).pairs.rdrop format.entries.length⟩

/-- The parameters are the leading ones and those of the format. -/
theorem parameters_eq :
    request.parameters config format suppress =
      request.leadingParameters config suppress ++ formatParameters format := by
  simp [parameters, leadingParameters]

/-- Without those of the format, the leading parameters are left. -/
theorem rdrop_parameters :
    (request.parameters config format suppress).rdrop format.entries.length =
      request.leadingParameters config suppress := by
  have hlength : format.entries.length = (formatParameters format).length := by
    simp [formatParameters]
  rw [parameters_eq, hlength, List.rdrop, List.length_append, Nat.add_sub_cancel, List.take_left]

/-- The leading pairs of a query are the leading parameters as they are written. -/
theorem leadingParams_eq :
    request.leadingParams config format suppress =
      .ofParameters (request.leadingParameters config suppress) := by
  have hpairs := congrArg (fun parameters => (Params.ofParameters parameters).pairs)
    (request.rdrop_parameters config format suppress)
  simp only [leadingParams, params, Params.ofParameters, List.rdrop, List.length_map,
    List.map_take] at hpairs ⊢
  rw [hpairs]

/-- What an engine reads under a key in front of the format, for a key that is written as it is. -/
theorem map_decode?_getAll_leadingParams {key : String} (hkey : Text.Percent.encode key = key) :
    ((request.leadingParams config format suppress).getAll key).map Text.Percent.decode? =
      (valuesAt key (request.leadingParameters config suppress)).map some := by
  have hdecoded := Params.map_decode?_getAll (request.leadingParameters config suppress) key
  rw [hkey] at hdecoded
  rw [leadingParams_eq, hdecoded]

end

/-! ## What stands under a key -/

/-- The key of an order of counts is no other key: those do not begin with `f.`. -/
theorem overrideKey_ne {key : String} (h : ['f', '.'].isPrefixOf key.toList = false)
    (name : String) : "f." ++ name ++ ".facet.sort" ≠ key := by
  rintro rfl
  simp [List.isPrefixOf] at h

/-- Orders of counts have no value at a key that does not begin as theirs do. -/
theorem valuesAt_overrideParameters (request : Request) {key : String}
    (h : ['f', '.'].isPrefixOf key.toList = false) :
    valuesAt key request.overrideParameters = [] := by
  refine Parameter.valuesAt_eq_nil fun p hp => ?_
  obtain ⟨override, _, rfl⟩ := List.mem_map.mp hp
  exact overrideKey_ne h override.1

variable (request : Request) (config : Config)

/-- A cursor sends its mark, or the first one if none was given; pages send none. -/
theorem cursorParameters_eq_match :
    request.cursorParameters =
      match request.paging with
      | .pages => []
      | .cursor mark _ => [⟨"cursorMark", (mark.filter (· ≠ "")).getD "*"⟩] := by
  cases h : request.paging <;> simp [cursorParameters, nonEmptyOr_eq_getD, firstMark, h]

/-- What stands under a key that does not begin with `f.`, group by group. -/
theorem valuesAt_leadingParameters (suppress : Bool) {key : String}
    (h : ['f', '.'].isPrefixOf key.toList = false) :
    valuesAt key (request.leadingParameters config suppress) =
      (if "q" = key then [config.base suppress] else []) ++
      (if "fq" = key then (request.clauseParameters config).map (·.value) else []) ++
      (if "sort" = key then [(request.sortParameter config).value] else []) ++
      (if "facet.field" = key then (request.facetParameters config).map (·.value) else []) ++
      (if "rows" = key then [String.ofList (signedNumeral request.rows.toNat)] else []) ++
      (if "start" = key then request.startParameters.map (·.value) else []) ++
      (if "cursorMark" = key then request.cursorParameters.map (·.value) else []) ++
      valuesAt key request.countParameters := by
  -- The groups of any length have one fixed key each, but for the orders of counts.
  have hclauses : valuesAt key (request.clauseParameters config) =
      if "fq" = key then (request.clauseParameters config).map (·.value) else [] := by
    apply Parameter.valuesAt_of_forall_key_eq
    intro p hp
    obtain ⟨clause, _, rfl⟩ := List.mem_map.mp hp
    rfl
  have hfacets : valuesAt key (request.facetParameters config) =
      if "facet.field" = key then (request.facetParameters config).map (·.value) else [] := by
    apply Parameter.valuesAt_of_forall_key_eq
    intro p hp
    obtain ⟨name, _, rfl⟩ := List.mem_map.mp hp
    rfl
  have hstart : valuesAt key request.startParameters =
      if "start" = key then request.startParameters.map (·.value) else [] := by
    apply Parameter.valuesAt_of_forall_key_eq
    intro p hp
    rw [startParameters, Option.mem_toList] at hp
    obtain ⟨start, _, rfl⟩ := Option.map_eq_some_iff.mp hp
    rfl
  have hcursor : valuesAt key request.cursorParameters =
      if "cursorMark" = key then request.cursorParameters.map (·.value) else [] := by
    apply Parameter.valuesAt_of_forall_key_eq
    intro p hp
    rw [cursorParameters] at hp
    cases hpaging : request.paging with
    | pages => simp [hpaging] at hp
    | cursor mark idField =>
      rw [hpaging] at hp
      rw [List.mem_singleton.mp hp]
  have hsplit : request.leadingParameters config suppress =
      [⟨"q", config.base suppress⟩] ++ request.clauseParameters config ++
        [request.sortParameter config] ++ request.facetParameters config ++
        request.overrideParameters ++ [numberParameter "rows" request.rows.toNat] ++
        request.startParameters ++ request.cursorParameters ++ request.countParameters := by
    simp [leadingParameters]
  rw [hsplit]
  simp only [Parameter.valuesAt_append, hclauses, hfacets, hstart, hcursor,
    request.valuesAt_overrideParameters h, List.append_nil, Parameter.valuesAt_cons,
    Parameter.valuesAt_nil, sortParameter, numberParameter]

end Request

end FacetedSearch
