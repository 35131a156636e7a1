/-!
# Media types

A client says what kind of text it sends: a type, a subtype that may end in a suffix, and
parameters, as in `application/vnd.api+json; charset=utf-8`. `isJson` accepts the media types of
JSON texts.
-/

namespace FacetedSearch.Service.MediaType

/-- The characters that names are made of: ASCII letters, digits and a few marks. -/
def isToken (c : Char) : Bool :=
  ('a' ≤ c && c ≤ 'z') || ('A' ≤ c && c ≤ 'Z') || ('0' ≤ c && c ≤ '9') ||
    ['!', '#', '$', '%', '&', '\'', '*', '+', '-', '.', '^', '_', '\x60', '|', '~'].contains c

/-- The characters that may stand between quotes. -/
def isQuotable (c : Char) : Bool := ' ' ≤ c && c != '\x7f'

/-- The characters that a header may hold. -/
def isVisible (c : Char) : Bool := (' ' ≤ c && c ≤ '~') || c == '\t'

/-- The parameters behind a quoted value, which spaces may follow. -/
def behindQuoted? (s : List Char) : Option (List Char) :=
  match s.dropWhile (· == ' ') with
  | [] => some []
  | ';' :: rest => some rest
  | _ => none

/-- The parameters behind a value. A quoted value has at least one character, which may itself be a
quote; an empty value can only come last. -/
def behindValue? (s : List Char) : Option (List Char) :=
  match s with
  | '"' :: c :: rest =>
    if isQuotable c then
      match rest.dropWhile fun c => isQuotable c && c != '"' with
      | '"' :: rest => behindQuoted? rest
      | _ => none
    else none
  | _ =>
    match s.dropWhile isToken with
    | [] => some []
    | ';' :: rest => if s.takeWhile isToken = [] then none else some rest
    | _ => none

/-- Leaving characters out at the front does not make a text longer. -/
private theorem length_dropWhile_char_le (p : Char → Bool) (s : List Char) :
    (s.dropWhile p).length ≤ s.length :=
  (List.dropWhile_sublist p).length_le

/-- What stands behind a quoted value is no longer than the text. -/
theorem behindQuoted?_le {s rest : List Char} (h : behindQuoted? s = some rest) :
    rest.length ≤ s.length := by
  have hle := length_dropWhile_char_le (· == ' ') s
  unfold behindQuoted? at h
  split at h
  · simp_all
  · rename_i hs
    simp only [Option.some.injEq] at h
    rw [hs, List.length_cons] at hle
    subst h
    omega
  · simp at h

/-- What stands behind a parameter's value is no longer than the text. -/
theorem behindValue?_le {s rest : List Char} (h : behindValue? s = some rest) :
    rest.length ≤ s.length := by
  unfold behindValue? at h
  split at h
  · rename_i tail
    split at h
    · have hle := length_dropWhile_char_le (fun c => isQuotable c && c != '"') tail
      split at h
      · rename_i hs
        have := behindQuoted?_le h
        rw [hs] at hle
        simp only [List.length_cons] at hle ⊢
        omega
      · simp at h
    · simp at h
  · have hle := length_dropWhile_char_le isToken s
    split at h
    · simp_all
    · rename_i hs
      split at h
      · simp at h
      · simp only [Option.some.injEq] at h
        rw [hs, List.length_cons] at hle
        subst h
        omega
    · simp at h

/-- Parameters: names, each with an equals sign and a value, with semicolons between them. Spaces
may stand in front of a name. -/
def areParameters (s : List Char) : Bool :=
  match s with
  | [] => true
  | ' ' :: rest => areParameters rest
  | c :: rest =>
    if !isToken c then false
    else
      match _hname : rest.dropWhile isToken with
      | '=' :: value =>
        match _hvalue : behindValue? value with
        | some later => areParameters later
        | none => false
      | _ => false
termination_by s.length
decreasing_by
  · simp
  · have h := length_dropWhile_char_le isToken rest
    rw [_hname, List.length_cons] at h
    have := behindValue?_le _hvalue
    simp only [List.length_cons]
    omega

/-- An ASCII text in lower case. -/
def lower (s : List Char) : List Char := s.map Char.toLower

/-- The name of a subtype and its suffix, which follows the last plus sign that is not the first
character. -/
def splitSuffix (subtype : List Char) : List Char × Option (List Char) :=
  let suffix := (subtype.reverse.takeWhile (· != '+')).reverse
  let name := subtype.take (subtype.length - suffix.length - 1)
  if suffix.length < subtype.length ∧ name ≠ [] then (name, some suffix) else (subtype, none)

/-- A subtype of JSON, or one whose texts are JSON. -/
def isJsonSubtype (subtype : List Char) : Bool :=
  let (name, suffix) := splitSuffix (lower subtype)
  name == ['j', 's', 'o', 'n'] || suffix == some ['j', 's', 'o', 'n']

/-- The text of a media type whose texts are JSON. -/
def isJson (text : String) : Bool :=
  let s := text.toList
  let main := s.takeWhile isToken
  s.all isVisible && lower main == "application".toList &&
    match s.dropWhile isToken with
    | '/' :: rest =>
      let subtype := rest.takeWhile isToken
      isJsonSubtype subtype &&
        match rest.dropWhile isToken with
        | [] => true
        | ';' :: parameters => subtype != [] && areParameters parameters
        | _ => false
    | _ => false

end FacetedSearch.Service.MediaType
