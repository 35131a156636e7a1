import FacetedSearch.Clause
import FacetedSearch.Config
import FacetedSearch.Field
import FacetedSearch.Text.Reserved

/-!
# From fields to clauses

Each field gives one clause or is skipped for a reason; a value of the wrong shape is never an
error. The field that holds paths is treated alike whatever its kind: its value is matched
literally, and the field is also counted.

```text title_t:budget                          text budget report                           text on
any field tags_ss:("a" OR "b")                    list of alternatives year_i:[2001 TO 2005]
range sent_on_dt:[NOW-1YEAR TO NOW]           range of dates s_i:[5 TO 9] OR e_i:[5 TO 9] OR (s_i:[*
TO 5] AND e_i:[9 TO *]) period path_s:/mail/inbox\ 2019                path ```
-/

namespace FacetedSearch

/-- The text of a scalar as it stands in a clause. Null, lists and objects have none. -/
def Json.scalarText? : Json → Option String
  | .text value => some value
  | .number value => some (String.ofList value.chars)
  | .boolean value => some (booleanText value)
  | .null => none
  | .list _ => none
  | .object _ => none

/-! ## Reasons to skip a field -/

/-- The shapes that values are asked to have. -/
inductive Shape where
  | scalar
  | twoBounds
  | scalarBound
  | values
  | scalarValue
  | spacedRange
  deriving DecidableEq

def Shape.text : Shape → String
  | .scalar => "scalar"
  | .twoBounds => "array of two bounds"
  | .scalarBound => "scalar bound"
  | .values => "array of values"
  | .scalarValue => "scalar value"
  | .spacedRange => "space-separated range"

/-- Why a field makes no clause. `expected` is the shape, in words, that the value should have had.
-/
inductive SkipReason where
  | emptyValue
  | tooFewBounds (required found : UInt64)
  | shapeMismatch (expected : String)
  | missingBoundField
  | unrecognizedKind (tag : String)
  deriving DecidableEq

namespace SkipReason

/-- The name of the reason, for machines. -/
def label : SkipReason → String
  | .emptyValue => "empty_value"
  | .tooFewBounds _ _ => "too_few_bounds"
  | .shapeMismatch _ => "shape_mismatch"
  | .missingBoundField => "missing_bound_field"
  | .unrecognizedKind _ => "unrecognized_kind"

/-- The reason in words. -/
def message : SkipReason → String
  | .emptyValue => "empty value"
  | .tooFewBounds required found =>
    "expected " ++ String.ofList (Decimal.numeral required.toNat) ++ " bounds, found " ++
      String.ofList (Decimal.numeral found.toNat)
  | .shapeMismatch expected => "expected " ++ expected
  | .missingBoundField => "lowerBound/upperBound not set"
  | .unrecognizedKind tag => "unrecognized type " ++ Text.Quoted.quote tag

end SkipReason

/-- A clause, or the reason why there is none. -/
abbrev Outcome := Except SkipReason Clause

/-! ## Clauses by kind -/

namespace Field

/-- The name that stands for any field. -/
def anyName : String := "*"

/-- The text of a value that has to be a scalar and not empty. -/
def scalarOf : Json → Except SkipReason String
  | .null => .error .emptyValue
  | value =>
    match value.scalarText? with
    | none => .error (.shapeMismatch Shape.scalar.text)
    | some text => if text = "" then .error .emptyValue else .ok text

/-- The value matched as it stands; on any field it is a query of its own. -/
def textClause (field : Field) : Outcome :=
  match scalarOf field.value with
  | .error reason => .error reason
  | .ok text => .ok ⟨if field.name = anyName then text else field.name ++ ":" ++ text⟩

/-- The value matched literally. -/
def pathClause (field : Field) : Outcome :=
  match scalarOf field.value with
  | .error reason => .error reason
  | .ok text => .ok ⟨field.name ++ ":" ++ Text.Reserved.escape text⟩

/-- The items of a list; null counts as an empty one. -/
def itemsOf (expected : Shape) : Json → Except SkipReason (List Json)
  | .null => .ok []
  | .list items => .ok items
  | _ => .error (.shapeMismatch expected.text)

/-- The texts of items that all have to be scalars. -/
def literalsOf : List Json → Except SkipReason (List String)
  | [] => .ok []
  | item :: rest =>
    match item.scalarText? with
    | none => .error (.shapeMismatch Shape.scalarValue.text)
    | some text =>
      match literalsOf rest with
      | .error reason => .error reason
      | .ok texts => .ok (text :: texts)

/-- Alternatives between quotes. What stands between the quotes is not changed. -/
def alternatives (name : String) (literals : List String) : Clause :=
  ⟨name ++ ":(" ++ String.intercalate " OR " (literals.map fun text => "\"" ++ text ++ "\"") ++ ")"⟩

/-- One of several values. -/
def listClause (field : Field) : Outcome :=
  match itemsOf .values field.value with
  | .error reason => .error reason
  | .ok [] => .error .emptyValue
  | .ok items =>
    match literalsOf items with
    | .error reason => .error reason
    | .ok literals => .ok (alternatives field.name literals)

/-- The text of one bound. -/
def boundOf (value : Json) : Except SkipReason String :=
  match value.scalarText? with
  | none => .error (.shapeMismatch Shape.scalarBound.text)
  | some text => .ok text

/-- The first two items of a list. -/
def boundsOf (value : Json) : Except SkipReason (String × String) :=
  match itemsOf .twoBounds value with
  | .error reason => .error reason
  | .ok [] => .error (.tooFewBounds 2 0)
  | .ok [_] => .error (.tooFewBounds 2 1)
  | .ok (low :: high :: _) =>
    match boundOf low with
    | .error reason => .error reason
    | .ok low =>
      match boundOf high with
      | .error reason => .error reason
      | .ok high => .ok (low, high)

/-- A value between two bounds. -/
def rangeClause (field : Field) : Outcome :=
  match boundsOf field.value with
  | .error reason => .error reason
  | .ok (low, high) => .ok (Condition.within field.name low high).clause

/-- The words in front of the first two spaces. -/
def firstTwoWords (text : List Char) : Except SkipReason (String × String) :=
  if text = [] then .error (.tooFewBounds 2 0)
  else
    match text.dropWhile (· != ' ') with
    | [] => .error (.tooFewBounds 2 1)
    | _ :: rest =>
      .ok (String.ofList (text.takeWhile (· != ' ')), String.ofList (rest.takeWhile (· != ' ')))

/-- The text that holds a range of dates. -/
def dateTextOf : Json → Except SkipReason String
  | .null => .ok ""
  | value =>
    match value.scalarText? with
    | none => .error (.shapeMismatch Shape.spacedRange.text)
    | some text => .ok text

/-- A date between the first two words of a text. -/
def dateRangeClause (field : Field) : Outcome :=
  match dateTextOf field.value with
  | .error reason => .error reason
  | .ok text =>
    match firstTwoWords text.toList with
    | .error reason => .error reason
    | .ok (low, high) => .ok (Condition.within field.name low high).clause

/-- The names of the fields that hold the ends of a period, if both are given. -/
def periodFields? (field : Field) : Option (String × String) :=
  match field.lower, field.upper with
  | some lower, some upper => if lower = "" ∨ upper = "" then none else some (lower, upper)
  | _, _ => none

/-- A period that meets the window between two bounds. -/
def periodClause (field : Field) : Outcome :=
  match boundsOf field.value with
  | .error reason => .error reason
  | .ok (low, high) =>
    match field.periodFields? with
    | none => .error .missingBoundField
    | some (lower, upper) => .ok (Condition.overlap lower upper low high).clause

/-- The clause of a field that holds no paths. -/
def kindClause (field : Field) : Outcome :=
  match field.kind with
  | .text => field.textClause
  | .listFacet => field.listClause
  | .rangeFacet => field.rangeClause
  | .range => field.rangeClause
  | .dateRangeFacet => field.dateRangeClause
  | .periodRangeFacet => field.periodClause
  | .periodRange => field.periodClause
  | .unrecognized tag => .error (.unrecognizedKind tag)

end Field

/-! ## What a field contributes -/

/-- What a field contributes: a clause, a clause on the path field, which is also counted, or
nothing. -/
inductive Contribution where
  | filter (clause : Clause)
  | path (facetField : String) (clause : Clause)
  | skipped (reason : SkipReason)
  deriving DecidableEq

namespace Contribution

def clause? : Contribution → Option Clause
  | .filter clause => some clause
  | .path _ clause => some clause
  | .skipped _ => none

def skipReason? : Contribution → Option SkipReason
  | .skipped reason => some reason
  | _ => none

/-- The path field, where the clause is on it. -/
def pathField? : Contribution → Option String
  | .path facetField _ => some facetField
  | _ => none

/-- An outcome, its clause kept in the given way. -/
def ofOutcome (keep : Clause → Contribution) : Outcome → Contribution
  | .ok clause => keep clause
  | .error reason => .skipped reason

end Contribution

/-- What a field contributes. The path field is recognized by its name, before its kind is looked
at. -/
def Field.contribution (field : Field) (config : Config) : Contribution :=
  if field.name = config.pathField then .ofOutcome (.path field.name) field.pathClause
  else .ofOutcome .filter field.kindClause

end FacetedSearch
