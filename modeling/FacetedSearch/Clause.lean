import FacetedSearch.Text.Percent

/-!
# Filter clauses

A clause narrows a search, in the syntax of the engine's query parser. `Clause` is a finished
clause; `Condition` is the part of the language that speaks of ranges, from which range clauses are
built. A range includes its ends, and a `*` leaves an end open.
-/

namespace FacetedSearch

/-- A clause in the syntax of the query parser, not encoded. -/
structure Clause where
  text : String
  deriving DecidableEq

/-- A clause as the value of a query parameter. -/
def Clause.encoded (clause : Clause) : String := Text.Percent.encode clause.text

/-- A condition on the values of fields. -/
inductive Condition where
  | within (field low high : String)
  | either (first second : Condition)
  | both (first second : Condition)
  deriving DecidableEq

namespace Condition

/-- A condition in the syntax of the query parser. -/
def text : Condition → String
  | .within field low high => field ++ ":[" ++ low ++ " TO " ++ high ++ "]"
  | .either first second => first.text ++ " OR " ++ second.text
  | .both first second => "(" ++ first.text ++ " AND " ++ second.text ++ ")"

def clause (condition : Condition) : Clause := ⟨condition.text⟩

/-- The end that is left open. -/
def unbounded : String := "*"

/-- A period whose ends are held by `lower` and `upper` meets the window from `low` to `high`: it
starts in the window, ends in it, or contains it. -/
def overlap (lower upper low high : String) : Condition :=
  .either (.either (.within lower low high) (.within upper low high))
    (.both (.within lower unbounded low) (.within upper high unbounded))

end Condition

end FacetedSearch
