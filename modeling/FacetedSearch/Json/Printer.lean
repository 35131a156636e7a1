import FacetedSearch.Json.Literal
import FacetedSearch.Json.Fault
import FacetedSearch.Keyed

/-!
# Writing JSON texts

`Json.compact` writes a value without white space, `Json.pretty` with one part a line, each level
two columns further in. Members are written in the order in which they stand; `Json.sorted` puts the
members of every object in the order of their keys.
-/

namespace FacetedSearch.Json

/-! ## Compact texts -/

/-- What stands in front of a part: a comma, unless it is the first. -/
def comma (first : Bool) : List Char := if first then [] else [',']

mutual

/-- The characters of a value, without white space. -/
def chars : Json → List Char
  | .null => ['n', 'u', 'l', 'l']
  | .boolean value => (booleanText value).toList
  | .number value => value.chars
  | .text value => Literal.write value
  | .list items => '[' :: itemChars true items
  | .object members => '\x7b' :: memberChars true members

/-- The items of a list and its closing bracket. -/
def itemChars (first : Bool) : List Json → List Char
  | [] => [']']
  | item :: rest => comma first ++ chars item ++ itemChars false rest

/-- The members of an object and its closing brace. -/
def memberChars (first : Bool) : List (String × Json) → List Char
  | [] => ['\x7d']
  | (key, value) :: rest =>
    comma first ++ Literal.write key ++ ':' :: (chars value ++ memberChars false rest)

end

/-- A value as a text without white space. -/
def compact (json : Json) : String := String.ofList json.chars

/-! ## Pretty texts -/

/-- The start of a line, some levels in. -/
def newline (level : Nat) : List Char := '\n' :: List.replicate (2 * level) ' '

mutual

/-- The characters of a value that stands some levels in. -/
def prettyChars (level : Nat) : Json → List Char
  | .list [] => ['[', ']']
  | .list (item :: rest) =>
    '[' :: (newline (level + 1) ++ prettyChars (level + 1) item ++ prettyItems level rest)
  | .object [] => ['\x7b', '\x7d']
  | .object ((key, value) :: rest) =>
    '\x7b' :: (newline (level + 1) ++ Literal.write key ++ [':', ' '] ++
      prettyChars (level + 1) value ++ prettyMembers level rest)
  | .null => ['n', 'u', 'l', 'l']
  | .boolean value => (booleanText value).toList
  | .number value => value.chars
  | .text value => Literal.write value

/-- The items behind the first one, and the closing bracket. -/
def prettyItems (level : Nat) : List Json → List Char
  | [] => newline level ++ [']']
  | item :: rest =>
    ',' :: (newline (level + 1) ++ prettyChars (level + 1) item ++ prettyItems level rest)

/-- The members behind the first one, and the closing brace. -/
def prettyMembers (level : Nat) : List (String × Json) → List Char
  | [] => newline level ++ ['\x7d']
  | (key, value) :: rest =>
    ',' :: (newline (level + 1) ++ Literal.write key ++ [':', ' '] ++
      prettyChars (level + 1) value ++ prettyMembers level rest)

end

/-- A value as a text with one part a line. -/
def pretty (json : Json) : String := String.ofList (json.prettyChars 0)

/-! ## Sorted objects -/

mutual

/-- The same value, the members of every object in the order of their keys. -/
def sorted : Json → Json
  | .list items => .list (sortedItems items)
  | .object members => .object (Keyed.ofList (sortedMembers members))
  | .null => .null
  | .boolean value => .boolean value
  | .number value => .number value
  | .text value => .text value

def sortedItems : List Json → List Json
  | [] => []
  | item :: rest => item.sorted :: sortedItems rest

def sortedMembers : List (String × Json) → List (String × Json)
  | [] => []
  | (key, value) :: rest => (key, value.sorted) :: sortedMembers rest

end

end FacetedSearch.Json
