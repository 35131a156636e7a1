import FacetedSearch.Json.Value
import FacetedSearch.Number.Shortest
import FacetedSearch.Text.Quoted

/-!
# Why a JSON text is refused

A text is either malformed or well formed and not what was asked for. Both causes are reported in
the words that clients see, by `Fault.message`. The value that stood in the wrong place is named by
its `Token`: scalars with their content, lists and objects by their kind alone.

The module also fixes how a number is written, which messages and printed values share.
-/

namespace FacetedSearch

/-! ## Numbers as text -/

/-- How a binary number is laid out: from which power of ten on it is written plainly, and from
which on it is not. -/
structure NumberLayout where
  plainFrom : Int
  plainBelow : Int

/-- JSON texts write numbers from `0.00001` to below `1e+16` plainly. -/
def Json.numberLayout : NumberLayout := ⟨-5, 16⟩

/-- The decimal digits of an integer, after a minus sign when it is negative. -/
def signedNumeral (n : Int) : List Char :=
  if n < 0 then '-' :: Decimal.numeral n.natAbs else Decimal.numeral n.natAbs

/-- A decimal with its point or its exponent. A plain number keeps a fraction, `.0` at the least. -/
def NumberLayout.magnitude (layout : NumberLayout) (x : Decimal) : List Char :=
  let digits := Decimal.numeral x.digits
  let leading := x.leadingPower
  if leading < layout.plainFrom ∨ layout.plainBelow ≤ leading then
    let fraction := match digits.drop 1 with
      | [] => []
      | rest => '.' :: rest
    let sign := if leading < 0 then '-' else '+'
    digits.take 1 ++ fraction ++ 'e' :: sign :: Decimal.numeral leading.natAbs
  else if leading < 0 then
    ['0', '.'] ++ List.replicate (leading.natAbs - 1) '0' ++ digits
  else
    let whole := leading.toNat + 1
    let fraction := match digits.drop whole with
      | [] => ['0']
      | rest => rest
    digits.take whole ++ List.replicate (whole - digits.length) '0' ++ '.' :: fraction

/-- The text of a binary number. -/
def NumberLayout.write (layout : NumberLayout) (x : Binary) : List Char :=
  (if x.negative then ['-'] else []) ++ layout.magnitude x.shortest

/-- The text of a number in a JSON text. -/
def Number.chars : Number → List Char
  | .whole n => signedNumeral n.val
  | .binary x => Json.numberLayout.write x

/-- The text of a truth value. -/
def booleanText (value : Bool) : String := if value then "true" else "false"

/-! ## Faults -/

/-- What stands at the head of a JSON text: a scalar, or the bracket of a list or an object. -/
inductive Token where
  | null
  | boolean (value : Bool)
  | number (value : Number)
  | text (value : String)
  | openList
  | openObject

/-- What is wrong with a text that is no JSON text. -/
inductive Malformation where
  | endOfList
  | endOfObject
  | endOfText
  | endOfValue
  | colonDue
  | listEndDue
  | objectEndDue
  | wordDue
  | valueDue
  | badEscape
  | badNumber
  | numberOutOfRange
  | controlCharacter
  | keyNotText
  | loneSurrogate
  | unfinishedSurrogates
  | trailingComma
  | trailingText
  | tooDeep
  deriving DecidableEq

/-- How a value differs from what was asked for. -/
inductive Mismatch where
  | wrongType (found : Token) (expected : String)
  | wrongNumber (found : Whole) (expected : String)
  | missingField (name : String)
  | duplicateField (name : String)
  | unknownChoice (name : String) (choices : List String)
  | wrongLength (found : Nat) (record : String) (fields : Nat)

/-- Why a text is refused. -/
inductive Fault where
  | malformed (cause : Malformation)
  | mismatch (cause : Mismatch)

/-- The words for a token in a message. -/
def Token.description : Token → String
  | .null => "null"
  | .boolean value => "boolean `" ++ booleanText value ++ "`"
  | .number (.whole n) => "integer `" ++ String.ofList (signedNumeral n.val) ++ "`"
  | .number (.binary x) =>
    "floating point `" ++ String.ofList (Json.numberLayout.write x) ++ "`"
  | .text value => "string " ++ Text.Quoted.quote value
  | .openList => "sequence"
  | .openObject => "map"

def Malformation.message : Malformation → String
  | .endOfList => "EOF while parsing a list"
  | .endOfObject => "EOF while parsing an object"
  | .endOfText => "EOF while parsing a string"
  | .endOfValue => "EOF while parsing a value"
  | .colonDue => "expected `:`"
  | .listEndDue => "expected `,` or `]`"
  | .objectEndDue => "expected `,` or `\x7d`"
  | .wordDue => "expected ident"
  | .valueDue => "expected value"
  | .badEscape => "invalid escape"
  | .badNumber => "invalid number"
  | .numberOutOfRange => "number out of range"
  | .controlCharacter =>
    "control character (\\u0000-\\u001F) found while parsing a string"
  | .keyNotText => "key must be a string"
  | .loneSurrogate => "lone leading surrogate in hex escape"
  | .unfinishedSurrogates => "unexpected end of hex escape"
  | .trailingComma => "trailing comma"
  | .trailingText => "trailing characters"
  | .tooDeep => "recursion limit exceeded"

def Mismatch.message : Mismatch → String
  | .wrongType found expected => "invalid type: " ++ found.description ++ ", expected " ++ expected
  | .wrongNumber found expected =>
    "invalid value: " ++ (Token.number (.whole found)).description ++ ", expected " ++ expected
  | .missingField name => "missing field `" ++ name ++ "`"
  | .duplicateField name => "duplicate field `" ++ name ++ "`"
  | .unknownChoice name choices =>
    "unknown variant `" ++ name ++ "`, expected " ++
      String.intercalate " or " (choices.map fun choice => "`" ++ choice ++ "`")
  | .wrongLength found record fields =>
    "invalid length " ++ String.ofList (Decimal.numeral found) ++ ", expected struct " ++ record ++
      " with " ++ String.ofList (Decimal.numeral fields) ++ " elements"

/-- The words in which a client learns of a fault. The line and the column where it was found, which
a client is told behind them, are left out. -/
def Fault.message : Fault → String
  | .malformed cause => cause.message
  | .mismatch cause => cause.message

end FacetedSearch
