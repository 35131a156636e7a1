import FacetedSearch.Json.Codec

/-!
# Sort order

The documents of a search are compared by a list of keys, the first one first. A client sends
selectors, each of which may be switched off; the selector declared last is the one it touched last,
so its key comes first.

`SortKey.order` adds what makes the order complete: the default key, unless a selector sorts on its
field already, and under cursor paging the identifier, which tells any two documents apart.
-/

namespace FacetedSearch

open Json (Codec Record Slot)

inductive Direction where
  | ascending
  | descending
  deriving DecidableEq

namespace Direction

def name : Direction → String
  | .ascending => "asc"
  | .descending => "desc"

def codec : Codec Direction := .choice [("asc", .ascending), ("desc", .descending)] name

end Direction

/-- A field to compare documents by, and in which direction. -/
structure SortKey where
  field : String
  direction : Direction
  deriving DecidableEq

namespace SortKey

/-- A key as the engine reads it. -/
def text (key : SortKey) : String := key.field ++ " " ++ key.direction.name

def record : Record SortKey where
  name := "SortKey"
  blank := ⟨"", .ascending⟩
  slots := [
    (Slot.field "field" .text (·.field) fun x key => { key with field := x }).needed,
    (Slot.field "direction" Direction.codec (·.direction) fun x key =>
      { key with direction := x }).needed]

def codec : Codec SortKey := .record record

end SortKey

/-- A selector that a client offers to sort by; without a direction it is switched off. Its label
and its priority only matter to the client. -/
structure SortSelector where
  field : String
  direction : Option Direction
  label : Option String
  priority : Option UInt32

namespace SortSelector

def record : Record SortSelector where
  name := "SortField"
  blank := ⟨"", none, none, none⟩
  slots := [
    (Slot.field "field" .text (·.field) fun x selector => { selector with field := x }).needed,
    Slot.field "value" Direction.codec.optional (·.direction) fun x selector =>
      { selector with direction := x },
    Slot.field "label" Codec.text.optional (·.label) fun x selector =>
      { selector with label := x },
    Slot.field "priority" Codec.uint32.optional (·.priority) fun x selector =>
      { selector with priority := x }]

def codec : Codec SortSelector := .record record

/-- The key of a selector that is switched on. -/
def key? (selector : SortSelector) : Option SortKey :=
  selector.direction.map (⟨selector.field, ·⟩)

end SortSelector

namespace SortKey

/-- The keys of the selectors that are switched on, the last declared one first. -/
def active (selectors : List SortSelector) : List SortKey :=
  selectors.reverse.filterMap SortSelector.key?

/-- The keys with a default one behind them, unless its field is among them. -/
def withDefault (keys : List SortKey) (default : SortKey) : List SortKey :=
  if keys.any (·.field == default.field) then keys else keys ++ [default]

/-- The complete order: the active keys, the default, and the identifier if there is one. -/
def order (selectors : List SortSelector) (default : SortKey) (idField : Option String) :
    List SortKey :=
  withDefault (active selectors) default ++ (idField.map (⟨·, .ascending⟩)).toList

end SortKey

end FacetedSearch
