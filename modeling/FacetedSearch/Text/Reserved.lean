/-!
# Reserved characters

The query parser gives a meaning to some characters. A backslash in front takes the meaning away,
and the backslash is one of them. `escape` protects a text and `unescape?` reads protected text
back.
-/

namespace FacetedSearch.Text.Reserved

/-- The characters that the query parser reads as its own. -/
def isReserved (c : Char) : Bool :=
  [' ', '!', '+', '&', '|', '(', ')', '[', ']', '\x7b', '\x7d', '^', ':', '"', '\\'].contains c

/-- Each reserved character after a backslash, all others as they are. -/
def escapeChars : List Char → List Char
  | [] => []
  | c :: rest => if isReserved c then '\\' :: c :: escapeChars rest else c :: escapeChars rest

/-- A text in which no reserved character keeps its meaning. -/
def escape (s : String) : String :=
  String.ofList (escapeChars s.toList)

/-- What protected text stands for. A reserved character that is not protected has no reading, and
neither has a protected one that is not reserved. -/
def unescapeChars? : List Char → Option (List Char)
  | [] => some []
  | ['\\'] => none
  | '\\' :: c :: rest => if isReserved c then (unescapeChars? rest).map (c :: ·) else none
  | c :: rest => if isReserved c then none else (unescapeChars? rest).map (c :: ·)

/-- What a protected text stands for. -/
def unescape? (s : String) : Option String :=
  (unescapeChars? s.toList).map String.ofList

/-- Characters are escaped one by one, so a concatenation is escaped part by part. -/
theorem escapeChars_append (xs ys : List Char) :
    escapeChars (xs ++ ys) = escapeChars xs ++ escapeChars ys := by
  induction xs with
  | nil => rfl
  | cons c rest ih => by_cases h : isReserved c = true <;> simp [escapeChars, h, ih]

/-- The escaped form of a concatenation is that of its parts. -/
theorem escape_append (s t : String) : escape (s ++ t) = escape s ++ escape t := by
  simp [escape, escapeChars_append]

end FacetedSearch.Text.Reserved
