import FacetedSearch.CommandLine.Run
import FacetedSearch.Proofs.CommandLine.Arguments
import FacetedSearch.Proofs.Entries
import FacetedSearch.Proofs.Json.Codecs
import FacetedSearch.Proofs.Json.Images
import FacetedSearch.Proofs.Query.Leading
import FacetedSearch.Proofs.Text.ByteOrder

/-!
# The order in which a format is asked for

The parameters of an output format are given as pairs, by arguments or by a JSON object, and may be
repeated. Of the pairs only the last value of each key is kept (`Keyed.ofList_congr`), and the query
writes it in the order of the keys' bytes.

A JSON object is read member by member, each one put among those before it. `Reader.textMembers`
reads the same objects and keeps all members as they are written. The format is the image of these
(`Format.image_codec`), so what is said of pairs holds of the members of an object.
-/

namespace FacetedSearch

/-! ## Formats as JSON objects -/

namespace Json

/-- Puts the text that is read behind the members in front of it. -/
def Reader.appendText (key : String) (members : List (String × String)) :
    Except Fault (Reader (List (String × String))) :=
  .ok (text.map fun value => members ++ [(key, value)])

/-- An object whose values are texts, as its members in the order in which they are written. -/
def Reader.textMembers (levels : Nat) : Reader (List (String × String)) :=
  .ofToken
    (fun token s =>
      match token with
      | .openObject =>
        match enter levels with
        | .error fault => .error fault
        | .ok _ => readMembers appendText true [] s
      | token => .error (.mismatch (.wrongType token "a map")))
    (by
      intro t s a rest h
      split at h
      · split at h
        · simp at h
        · exact Nat.le_of_lt (readMembers_shorter h)
      · simp at h)

/-- The members of an object whose values are texts. -/
def Codec.textMembers : Codec (List (String × String)) where
  read := Reader.textMembers
  write members := .object (members.map fun member => (member.1, .text member.2))

/-- An object with these members in some layout. -/
def Layout.object (layout : Layout) (members : List (String × String)) : String :=
  String.ofList ('\x7b' ::
    layout.members true (members.map fun member => (member.1, (Json.text member.2).chars)))

/-- Entries are read as members are and collected afterwards, with the same refusals. -/
theorem Reader.texts_eq_map (levels : Nat) :
    Reader.texts levels = (Reader.textMembers levels).map Keyed.ofList := by
  have hentry : EntryImage Keyed.ofList Reader.putText Reader.appendText := by
    intro key state
    simp only [Reader.putText, Reader.appendText, Except.map, Reader.map_map, Keyed.ofList_concat]
  ext1 s
  simp only [Reader.run_map, texts, textMembers, ofToken]
  cases readToken s with
  | error fault => rfl
  | ok read =>
    obtain ⟨token, rest⟩ := read
    cases token with
    | openObject =>
      dsimp only
      cases enter levels with
      | error fault => rfl
      | ok level => exact readMembers_image hentry true [] rest
    | null | boolean | number | text | openList => rfl

end Json

namespace Format

/-- Putting pairs into order once more changes nothing. -/
theorem ofPairs_ofList (pairs : List (String × String)) :
    ofPairs (Keyed.ofList pairs) = ofPairs pairs := by
  simp only [ofPairs, Keyed.ofList_eq_self (Keyed.increasing_ofList pairs)]

/-- A format is what the members of an object are collected to. -/
theorem image_codec : codec.Image ofPairs Json.Codec.textMembers := by
  intro levels
  simp only [codec, Json.Codec.textMembers, Json.Reader.texts_eq_map, Json.Reader.map_map,
    ofPairs_ofList]

end Format

namespace Request

variable (request : Request) (config : Config) (suppress : Bool)

end Request

end FacetedSearch
