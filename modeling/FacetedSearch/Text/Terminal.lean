/-!
# Text on a terminal

A terminal does not show all of a text: an escape character begins a sequence that it obeys instead,
and control characters other than white space leave no mark. `shown` is what is left of a text.

```text ESC [ 3 1 m                 a control sequence, up to a character from @ to ~ ESC ( B
intermediate characters and a final one ESC ] 0 ; title BEL         a command, up to a bell ESC P 1
$ q text            a device control, which goes on until it is broken off ESC X text
a string, which goes on until it is broken off; also with ^ and _ ```

An escape character breaks off whatever it stands in and begins anew; so do the characters CAN and
SUB, behind which text is plain again. A string also ends at the byte `0x9c`, wherever it stands in
the UTF-8 bytes of a character, which is then not shown.
-/

namespace FacetedSearch.Text.Terminal

/-- Where a terminal stands in a sequence. -/
inductive Phase where
  | plain
  | escape
  | intermediate
  | control
  | command
  | device
  | deviceParameters
  | deviceIntermediate
  | string
  deriving DecidableEq

/-- The control characters that are white space. -/
def isBlankControl (c : Char) : Bool := c == '\t' || c == '\n' || c == '\x0c' || c == '\r'

/-- The characters that are shown outside sequences. -/
def isShown (c : Char) : Bool := (' ' ≤ c && c != '\x7f') || isBlankControl c

/-- A string ends at a character that has the byte `0x9c`. -/
def endsString (c : Char) : Bool := (String.utf8EncodeChar c).contains 0x9c

namespace Phase

/-- Whether a character is shown. White space is shown in sequences too, but not in strings. -/
def shows (phase : Phase) (c : Char) : Bool :=
  match phase with
  | .plain => isShown c
  | .escape => isBlankControl c
  | .intermediate => isBlankControl c
  | .control => isBlankControl c
  | _ => false

/-- Behind an escape character, one character tells the kind of the sequence. -/
def behindEscape (c : Char) : Phase :=
  if c = '[' then .control
  else if c = ']' then .command
  else if c = 'P' then .device
  else if c = 'X' ∨ c = '^' ∨ c = '_' then .string
  else if ' ' ≤ c ∧ c ≤ '/' then .intermediate
  else if '0' ≤ c ∧ c ≤ '~' then .plain
  else .escape

/-- The phase behind a character that does not break off the sequence. -/
def next (phase : Phase) (c : Char) : Phase :=
  match phase with
  | .plain => .plain
  | .escape => behindEscape c
  | .intermediate => if '0' ≤ c ∧ c ≤ '~' then .plain else .intermediate
  | .control => if '@' ≤ c ∧ c ≤ '~' then .plain else .control
  | .command => if c = '\x07' then .plain else .command
  | .device =>
    if ' ' ≤ c ∧ c ≤ '/' then .deviceIntermediate
    else if '0' ≤ c ∧ c ≤ '?' then .deviceParameters
    else if '@' ≤ c ∧ c ≤ '~' then .string
    else .device
  | .deviceParameters =>
    if ' ' ≤ c ∧ c ≤ '/' then .deviceIntermediate
    else if '<' ≤ c ∧ c ≤ '~' then .string
    else .deviceParameters
  | .deviceIntermediate => if '0' ≤ c ∧ c ≤ '~' then .string else .deviceIntermediate
  | .string => if endsString c then .plain else .string

/-- The phase behind a character that is not shown. -/
def after (phase : Phase) (c : Char) : Phase :=
  if c = '\x1b' then .escape
  else if c = '\x18' ∨ c = '\x1a' then .plain
  else phase.next c

end Phase

/-- What is shown of a text from a phase on. White space in a sequence interrupts it: the text
behind is shown up to the next control character, which finds the sequence where it stood, unless a
character beyond ASCII has come between. -/
def shownFrom (phase : Phase) (showing : Bool) : List Char → List Char
  | [] => []
  | c :: rest =>
    if (if showing then Phase.plain else phase).shows c then
      c :: shownFrom (if '\x7f' < c then .plain else phase) true rest
    else shownFrom (phase.after c) false rest

/-- What a terminal shows of a text. -/
def shown (s : String) : String :=
  String.ofList (shownFrom .plain false s.toList)

end FacetedSearch.Text.Terminal
