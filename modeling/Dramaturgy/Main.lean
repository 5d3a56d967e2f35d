import Dramaturgy.CommandLine

/-!
# The program

Reads the files of a run, prints what the run comes to, and ends with its exit code.
-/

namespace Dramaturgy.CommandLine

/-- The text of a file, if it is there and is text. -/
def readText? (path : String) : IO (Option String) := do
  try
    return String.fromUTF8? (← IO.FS.readBinFile path)
  catch _ =>
    return none

/-- The paths of the files that may be read to meet a request. -/
def Request.paths : Request → List String
  | .run i => i.script.toList ++ i.settings.toList.flatMap fun name => [name, name ++ ".toml"]
  | _ => []

/-- Whether all notes are to be told, and not only warnings. -/
def Request.tellsAll : Request → Bool
  | .run i => i.verbose
  | _ => false

/-- A note on a line of its own. -/
def noteLine (n : Note) : String :=
  let details := n.details.map fun
    | (name, .text value) => name ++ "=" ++ value
    | (name, .count value) => name ++ "=" ++ toString value
  " ".intercalate (n.severity.name :: n.message :: details)

/-- Carries out what the arguments ask for. -/
def execute (args : List String) : IO UInt32 := do
  let request := Request.ofArguments? args
  let texts ← (request.toList.flatMap Request.paths).mapM fun path => do
    return (path, ← readText? path)
  let ending := run (fun path => (texts.lookup path).join) args
  for note in ending.notes do
    if request.any Request.tellsAll || note.severity == .warn then
      IO.eprintln (noteLine note)
  IO.print ending.output
  if let some complaint := ending.complaint then
    IO.eprintln complaint
  return ending.exitCode

end Dramaturgy.CommandLine

def main (args : List String) : IO UInt32 :=
  Dramaturgy.CommandLine.execute args
