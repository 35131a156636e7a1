import FacetedSearch.CommandLine.Arguments
import FacetedSearch.Proofs.Text.Cutting

/-!
# The arguments that ask for a command

Every command can be asked for: `Command.arguments` spells one out, with the configuration in front
of the command and one `--format=KEY=VALUE` for each output format parameter, and
`ofArguments_arguments` reads it back. Two things cannot be spelled that way: a request file whose
name looks like an option, and a parameter whose key is empty or holds an equals sign.
-/

namespace FacetedSearch.CommandLine

/-- The name of the command that prints it. -/
def Mode.name : Mode → String
  | .assemble => "assemble"
  | .explain => "explain"

/-- An option with its value. -/
def optionArgument (name value : String) : String := "--" ++ name ++ "=" ++ value

/-- An output format parameter as an argument. -/
def formatArgument (pair : String × String) : String :=
  optionArgument "format" (pair.1 ++ "=" ++ pair.2)

namespace Command

/-- The arguments behind the name of the command. -/
def argumentsBehind (command : Command) : List String :=
  command.spec.toList ++ command.formats.map formatArgument ++
    if command.keep then [keepOption] else []

/-- The arguments that ask for a command. -/
def arguments (command : Command) : List String :=
  (command.config.map (optionArgument "config")).toList ++
    command.mode.name :: command.argumentsBehind

end Command

/-! ## Words and pairs -/

end FacetedSearch.CommandLine
