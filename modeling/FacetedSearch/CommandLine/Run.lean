import FacetedSearch.CommandLine.Arguments
import FacetedSearch.Query.Assembly

/-!
# Running a command

A command reads a configuration and a request and prints a query or a report. `run` says what is
printed and how the program ends, given what the files and the standard input hold.
-/

namespace FacetedSearch.CommandLine

/-- How the program ends and what it prints. -/
structure Ending where
  status : UInt32
  output : String
  diagnostics : String
  deriving DecidableEq

/-- The reason given for a file that does not exist. -/
def noSuchFile : String := "No such file or directory (os error 2)"

/-- Why a command fails. -/
inductive Failure where
  | badConfig (cause : Config.Error)
  | unreadable (path reason : String)
  | badRequest (cause : Request.Error)

def Failure.message : Failure → String
  | .badConfig cause => cause.message
  | .unreadable path reason => "reading " ++ path ++ "\n\nCaused by:\n    " ++ reason
  | .badRequest cause => cause.message

/-- What reading a file gives: its content, or the reason why it cannot be read. -/
abbrev Files := String → Except String String

/-- The configuration of a file, or the standard one. -/
def configFrom (files : Files) : Option String → Except Config.Error Config
  | none => .ok Config.standard
  | some path =>
    match files path with
    | .error reason => .error (.unreadable path reason)
    | .ok text => Config.ofText text

/-- The text of the request: a file, or the standard input. -/
def requestText (files : Files) (input : String) : Option String → Except Failure String
  | none => .ok input
  | some path =>
    if path = "-" then .ok input
    else
      match files path with
      | .error reason => .error (.unreadable path reason)
      | .ok text => .ok text

/-- The output format that the arguments ask for. -/
def formatFrom (pairs : List (String × String)) : Format :=
  match pairs with
  | [] => .json
  | pairs => .ofPairs pairs

/-- What a command prints. The configuration is read before the request. -/
def Command.output (command : Command) (files : Files) (input : String) : Except Failure String :=
  match configFrom files command.config with
  | .error cause => .error (.badConfig cause)
  | .ok config =>
    match requestText files input command.spec with
    | .error failure => .error failure
    | .ok text =>
      match Request.ofText text with
      | .error cause => .error (.badRequest cause)
      | .ok request =>
        let query := request.query config (formatFrom command.formats) !command.keep
        match command.mode with
        | .assemble => .ok query
        | .explain => .ok (Report.json (request.explain config) query).pretty

/-- Runs the program with some arguments. -/
def run (files : Files) (input : String) (arguments : List String) : Ending :=
  match Command.ofArguments arguments with
  | .error .help => ⟨0, usage ++ "\n", ""⟩
  | .error (.error cause) => ⟨2, "", cause.message ++ "\n"⟩
  | .ok command =>
    match command.output files input with
    | .error failure => ⟨1, "", "Error: " ++ failure.message ++ "\n"⟩
    | .ok output => ⟨0, output ++ "\n", ""⟩

end FacetedSearch.CommandLine
