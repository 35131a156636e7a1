import FacetedSearch.Text.Quoted
import FacetedSearch.Text.Terminal

/-!
# Command-line arguments

```text facetquery [--config <CONFIG>] assemble|explain [<SPEC>] [--format <KEY=VALUE>]...
[--allow-attachmentless] ```

The configuration may also be named behind the command, where it counts before one in front. An
option takes the next argument as its value, unless that one is an option itself, or its value
stands behind an equals sign. The value of an option is looked at when the next option or positional
argument is met; an argument that is not expected at all is refused before that.

`Arguments.read` gives the command that the arguments ask for.
-/

namespace FacetedSearch.CommandLine

/-! ## What can be wrong -/

/-- An option that takes a value. -/
inductive ValueOption where
  | config
  | format
  deriving DecidableEq

def ValueOption.text : ValueOption → String
  | .config => "--config <CONFIG>"
  | .format => "--format <KEY=VALUE>"

/-- The option that keeps documents without an attachment. -/
def keepOption : String := "--allow-attachmentless"

/-- Why a text is no output format parameter. -/
inductive PairError where
  | noEquals
  | emptyKey
  deriving DecidableEq

def PairError.message (value : String) : PairError → String
  | .noEquals => "expected KEY=VALUE, got " ++ Text.Quoted.quote value
  | .emptyKey => "empty key in " ++ Text.Quoted.quote value

/-- Why the arguments give no command. -/
inductive UsageError where
  | noArguments
  | noCommand
  | unknownCommand (name : String)
  | unexpectedArgument (argument : String)
  | missingValue (option : ValueOption)
  | badFormat (value : String) (cause : PairError)
  | unexpectedValue (value option : String)
  | repeated (option : String)
  deriving DecidableEq

/-- How the program is used. -/
def usage : String :=
  "Translate faceted search specs into search-engine query strings\n" ++
  "\n" ++
  "Usage: facetquery [OPTIONS] <COMMAND>\n" ++
  "\n" ++
  "Commands:\n" ++
  "  assemble  Print the assembled query string\n" ++
  "  explain   Print how each field was translated, and the query string\n" ++
  "  help      Print this message or the help of the given subcommand(s)\n" ++
  "\n" ++
  "Options:\n" ++
  "      --config <CONFIG>  Assembler config JSON (field names, default sort)\n" ++
  "  -h, --help             Print help"

/-- What a usage error is reported as. Arguments are shown the way a terminal shows them. -/
def UsageError.message : UsageError → String
  | .noArguments => usage
  | .noCommand => "error: 'facetquery' requires a subcommand but one was not provided"
  | .unknownCommand name => "error: unrecognized subcommand '" ++ Text.Terminal.shown name ++ "'"
  | .unexpectedArgument argument =>
    "error: unexpected argument '" ++ Text.Terminal.shown argument ++ "' found"
  | .missingValue option =>
    "error: a value is required for '" ++ option.text ++ "' but none was supplied"
  | .badFormat value cause =>
    "error: invalid value '" ++ Text.Terminal.shown value ++ "' for '" ++ ValueOption.format.text ++
      "': " ++ cause.message value
  | .unexpectedValue value option =>
    "error: unexpected value '" ++ Text.Terminal.shown value ++ "' for '" ++ option ++
      "' found; no more were expected"
  | .repeated option => "error: the argument '" ++ option ++ "' cannot be used multiple times"

/-! ## Pairs and words -/

/-- An output format parameter: a key that is not empty, the first equals sign, and a value. -/
def readPair (text : String) : Except PairError (String × String) :=
  let key := text.toList.takeWhile (· != '=')
  match text.toList.dropWhile (· != '=') with
  | [] => .error .noEquals
  | _ :: value =>
    if key = [] then .error .emptyKey else .ok (String.ofList key, String.ofList value)

/-- An argument by its form. -/
inductive Word where
  | escape
  | long (name : String) (value : Option String)
  | short (letter : Char)
  | plain (text : String)

namespace Word

def ofText (text : String) : Word :=
  match text.toList with
  | ['-', '-'] => .escape
  | '-' :: '-' :: rest =>
    let name := String.ofList (rest.takeWhile (· != '='))
    match rest.dropWhile (· != '=') with
    | [] => .long name none
    | _ :: value => .long name (some (String.ofList value))
  | '-' :: letter :: _ => .short letter
  | _ => .plain text

end Word

/-! ## Options -/

/-- Why reading ends early: help is asked for, or the arguments are wrong. -/
inductive Stop where
  | help
  | error (cause : UsageError)
  deriving DecidableEq

/-- An option that still waits for its value, or has one that has not been looked at. -/
inductive Pending where
  | awaiting (option : ValueOption)
  | holding (option : ValueOption) (value : String)

/-- What the arguments have given so far. -/
structure Given where
  config : Option String
  formats : List (String × String)
  keep : Bool
  spec : Option String
  pending : Option Pending

namespace Given

def nothing : Given := ⟨none, [], false, none, none⟩

/-- The value of an option, looked at. -/
def store (given : Given) (option : ValueOption) (value : String) : Except Stop Given :=
  match option with
  | .config =>
    match given.config with
    | some _ => .error (.error (.repeated option.text))
    | none => .ok { given with config := some value }
  | .format =>
    match readPair value with
    | .error cause => .error (.error (.badFormat value cause))
    | .ok pair => .ok { given with formats := given.formats ++ [pair] }

/-- Looks at the value of the option in front, if there is one. -/
def settle (given : Given) : Except Stop Given :=
  match given.pending with
  | none => .ok given
  | some (.awaiting option) => .error (.error (.missingValue option))
  | some (.holding option value) => { given with pending := none }.store option value

/-- An option with its value, or the next argument to be its value. -/
def give (given : Given) (option : ValueOption) (value : Option String) : Except Stop Given :=
  match given.settle with
  | .error stop => .error stop
  | .ok given =>
    match value with
    | some value => given.store option value
    | none => .ok { given with pending := some (.awaiting option) }

/-- An option without a value. -/
def switch (given : Given) (option : String) (value : Option String)
    (turn : Given → Except Stop Given) : Except Stop Given :=
  match value with
  | some value => .error (.error (.unexpectedValue value option))
  | none =>
    match given.settle with
    | .error stop => .error stop
    | .ok given => turn given

/-- Asks for help, once the option in front is settled. -/
def help (given : Given) (value : Option String) : Except Stop Given :=
  given.switch "--help" value fun _ => .error .help

/-- Keeps documents without an attachment. -/
def keepAll (given : Given) (value : Option String) : Except Stop Given :=
  given.switch keepOption value fun given =>
    if given.keep then .error (.error (.repeated keepOption)) else .ok { given with keep := true }

/-- A long option. The options of a command are known only behind it. -/
def long (given : Given) (behindCommand : Bool) (name : String) (value : Option String) :
    Except Stop Given :=
  if name = "config" then given.give .config value
  else if name = "help" then given.help value
  else if behindCommand ∧ name = "format" then given.give .format value
  else if behindCommand ∧ "--" ++ name = keepOption then given.keepAll value
  else .error (.error (.unexpectedArgument ("--" ++ name)))

/-- A short option. -/
def short (given : Given) (letter : Char) : Except Stop Given :=
  if letter = 'h' then given.help none
  else .error (.error (.unexpectedArgument (String.ofList ['-', letter])))

/-- A positional argument behind a command. -/
def position (given : Given) (text : String) : Except Stop Given :=
  match given.spec with
  | some _ => .error (.error (.unexpectedArgument text))
  | none =>
    match given.settle with
    | .error stop => .error stop
    | .ok given => .ok { given with spec := some text }

end Given

/-! ## Commands -/

/-- What a command prints. -/
inductive Mode where
  | assemble
  | explain
  deriving DecidableEq

/-- What the arguments ask for. -/
structure Command where
  mode : Mode
  config : Option String
  spec : Option String
  formats : List (String × String)
  keep : Bool
  deriving DecidableEq

def modes : List (String × Mode) := [("assemble", .assemble), ("explain", .explain)]

def helpName : String := "help"

def isCommandName (name : String) : Bool := name == helpName || modes.any (·.1 == name)

/-- The arguments behind a command. -/
def readBehind (given : Given) (escaped : Bool) : List String → Except Stop Given
  | [] => given.settle
  | argument :: rest =>
    let step : Except Stop (Given × Bool) :=
      if escaped then (given.position argument).map (·, true)
      else
        match Word.ofText argument with
        | .escape => .ok (given, true)
        | .long name value => (given.long true name value).map (·, false)
        | .short letter => (given.short letter).map (·, false)
        | .plain text =>
          match given.pending with
          | some (.awaiting option) =>
            .ok ({ given with pending := some (.holding option text) }, false)
          | _ => (given.position text).map (·, false)
    match step with
    | .error stop => .error stop
    | .ok (given, escaped) => readBehind given escaped rest

/-- The command of a mode. What stands behind the command is settled before what stands in front. -/
def readCommand (front : Given) (mode : Mode) (arguments : List String) : Except Stop Command :=
  match readBehind .nothing false arguments with
  | .error stop => .error stop
  | .ok given =>
    match front.settle with
    | .error stop => .error stop
    | .ok front =>
      .ok {
        mode := mode
        config := given.config.or front.config
        spec := given.spec
        formats := given.formats
        keep := given.keep }

/-- Help on a command, which has to exist. -/
def readHelp : List String → Stop
  | [] => .help
  | name :: rest =>
    if isCommandName name then
      match rest with
      | [] => .help
      | next :: _ => .error (.unknownCommand next)
    else .error (.unknownCommand name)

/-- An argument in front of the command that is neither an option nor a command. -/
def strayInFront (escaped : Bool) (text : String) : UsageError :=
  if escaped && isCommandName text then .unexpectedArgument text else .unknownCommand text

/-- The end of the arguments, and no command among them. -/
def readNothing (given : Given) : Except Stop Command :=
  match given.settle with
  | .error stop => .error stop
  | .ok given => .error (.error (if given.config.isSome then .noCommand else .noArguments))

/-- The arguments from the first one on, up to the command. -/
def readFront (given : Given) (escaped : Bool) : List String → Except Stop Command
  | [] => readNothing given
  | argument :: rest =>
    if escaped then .error (.error (strayInFront true argument))
    else
      match Word.ofText argument with
      | .escape => readFront given true rest
      | .long name value =>
        match given.long false name value with
        | .error stop => .error stop
        | .ok given => readFront given false rest
      | .short letter =>
        match given.short letter with
        | .error stop => .error stop
        | .ok given => readFront given false rest
      | .plain text =>
        match given.pending with
        | some (.awaiting option) =>
          readFront { given with pending := some (.holding option text) } false rest
        | _ =>
          match modes.lookup text with
          | some mode => readCommand given mode rest
          | none =>
            if text = helpName then .error (readHelp rest)
            else .error (.error (strayInFront false text))

/-- The command that the arguments ask for. -/
def Command.ofArguments (arguments : List String) : Except Stop Command :=
  readFront .nothing false arguments

end FacetedSearch.CommandLine
