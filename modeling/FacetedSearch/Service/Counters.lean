import FacetedSearch.Keyed
import FacetedSearch.Contribution

/-!
# Counters

The service counts what it does, so that operators can watch it. An `Event` is one thing that is
counted; `Counters` holds how often each has happened, under the name by which it is reported.
-/

namespace FacetedSearch.Service

/-- What the service counts. -/
inductive Event where
  | answered
  | refused
  | timed
  | skipped (label : String)
  deriving DecidableEq

/-- The name of a counter. -/
def Event.sample : Event → String
  | .answered => "query_assemble_total\x7bresult=\"ok\"\x7d"
  | .refused => "query_assemble_total\x7bresult=\"invalid\"\x7d"
  | .timed => "query_assemble_seconds_count"
  | .skipped label => "filters_skipped_total\x7breason=\"" ++ label ++ "\"\x7d"

/-- How often each event has happened, in the order of the names. -/
structure Counters where
  entries : List (String × Nat)

namespace Counters

/-- Nothing has happened. -/
def zero : Counters := ⟨[]⟩

def get (counters : Counters) (sample : String) : Nat := (counters.entries.lookup sample).getD 0

/-- One more event. -/
def count (counters : Counters) (event : Event) : Counters :=
  ⟨Keyed.put event.sample (counters.get event.sample + 1) counters.entries⟩

/-- More events. -/
def countAll (counters : Counters) (events : List Event) : Counters := events.foldl count counters

/-- The counters as lines of text. The lines that describe a counter, and the times that were
measured, are left out. -/
def text (counters : Counters) : String :=
  String.join (counters.entries.map fun entry =>
    entry.1 ++ " " ++ String.ofList (Decimal.numeral entry.2) ++ "\n")

end Counters

end FacetedSearch.Service
