import FacetedSearch.CommandLine.Run

/-!
# The program

Reads the files and the standard input that the arguments call for, and leaves the rest to
`CommandLine.run`.
-/

namespace FacetedSearch.CommandLine

/-- The files that a command reads. -/
def Command.paths (command : Command) : List String :=
  command.config.toList ++ (command.spec.filter (· != "-")).toList

/-- A command without a file for its request reads the standard input. -/
def Command.readsInput (command : Command) : Bool :=
  command.spec.all (· == "-")

/-- The content of a file, or the reason why it cannot be read. -/
def readPath (path : String) : IO (Except String String) := do
  try
    return .ok (← IO.FS.readFile path)
  catch
    | .noFileOrDirectory .. => return .error noSuchFile
    | cause => return .error (toString cause)

/-- What the files that a command reads hold. -/
def readPaths (paths : List String) : IO Files := do
  let contents ← paths.mapM fun path => return (path, ← readPath path)
  return fun path => (contents.lookup path).getD (.error noSuchFile)

/-- Prints what a run prints. -/
def finish (ending : Ending) : IO UInt32 := do
  IO.print ending.output
  IO.eprint ending.diagnostics
  return ending.status

end FacetedSearch.CommandLine

/-- The command line of the program. -/
def main (arguments : List String) : IO UInt32 := do
  match FacetedSearch.CommandLine.Command.ofArguments arguments with
  | .error _ =>
    FacetedSearch.CommandLine.finish (FacetedSearch.CommandLine.run (fun _ => .error "") "" arguments)
  | .ok command =>
    let files ← FacetedSearch.CommandLine.readPaths command.paths
    let input ← if command.readsInput then (← IO.getStdin).readToEnd else pure ""
    FacetedSearch.CommandLine.finish (FacetedSearch.CommandLine.run files input arguments)
