import Dramaturgy.Cast
import Dramaturgy.CommandLine.Invocation
import Dramaturgy.Failure
import Dramaturgy.Format.Catalogue
import Dramaturgy.Script.Yaml
import Dramaturgy.Settings

/-!
# The command line

What a run of the program comes to: the text that it writes, what it has to complain of, and its exit
code. A run is a function of the arguments and of the texts of the files, so that nothing but reading
files and printing is left to the program itself.

The settings are read first, then the script. A failure in one of them is the end, and then nothing
is written out.
-/

namespace Dramaturgy.CommandLine

/-- What a run comes to. -/
structure Ending where
  exitCode : UInt32
  output : String := ""
  /-- What the run has to complain of. -/
  complaint : Option String := none
  notes : List Note := []

/-- The texts of the files that can be read, by path. -/
abbrev Files := String → Option String

/-! ## Texts of the program -/

/-- The name of the program. -/
def programName : String := "playscript"

/-- The name and the version of the program. -/
def versionText : String := programName ++ " 0.1.0\n"

/-- How the program is used. -/
def usageText : String :=
  "Usage: " ++ programName ++ " [OPTIONS] [path]\n\n" ++
  "  -f, --format <format>  Output format\n" ++
  "  -c, --config <config>  Configuration file layered over the built-in defaults\n" ++
  "      --cast             Print the cast list instead of the plot\n" ++
  "      --list-formats     List available output formats\n" ++
  "  -v, --verbose          Log compilation steps to stderr\n" ++
  "  -h, --help             Print help\n" ++
  "  -V, --version          Print version\n"

/-! ## Runs -/

/-- The text of a document with settings: that of the file with the given name, or with the name of
its kind added. -/
def settingsText? (files : Files) (name : String) : Option String :=
  files name <|> if name.isEmpty then none else files (name ++ ".toml")

/-- The settings of an invocation. An option counts more than a document. -/
def Invocation.settings? (files : Files) (i : Invocation) : Option Settings :=
  let document := i.settings.toList.map fun name =>
    Settings.Layer.document (settingsText? files name) false
  let option := i.format.toList.map fun name =>
    Settings.Layer.assignment "output.format" (.string name)
  Settings.ofLayers? (document ++ option)

/-- A text with a line break at its end. -/
def withFinalBreak (text : String) : String :=
  if text.toList.getLast? = some '\n' then text else text ++ "\n"

/-- A run that ends with a text. -/
def Ending.success (output : String) (notes : List Note) : Ending :=
  { exitCode := 0, output, notes }

/-- A run that ends with a failure. -/
def Ending.failure (cause : Failure) (notes : List Note) : Ending :=
  { exitCode := 1, complaint := some ("Error: " ++ cause.message), notes }

/-- Writes out the script at the given path, or its cast. -/
def Invocation.writeScript (files : Files) (i : Invocation) (settings : Settings) (path : String) :
    Ending :=
  match files path with
  | none => .failure .unreadable []
  | some text =>
    match Script.ofYaml? text with
    | none => .failure .notAScript []
    | some script =>
      let report :=
        if i.cast then script.cast settings.vocabulary else script.perform settings.vocabulary
      match report.outcome with
      | .error cause => .failure (.fault cause) report.notes
      | .ok play =>
        match (Catalogue.builtIn settings.layout).write? settings.format play with
        | none => .failure (.missingFormat settings.format) report.notes
        | some text => .success (withFinalBreak text) report.notes

/-- Carries out an invocation. -/
def Invocation.run (files : Files) (i : Invocation) : Ending :=
  match i.settings? files with
  | none => .failure .badSettings []
  | some settings =>
    if i.listFormats then .success (Catalogue.builtIn settings.layout).listing []
    else
      match i.script with
      | none => .success "" []
      | some path => i.writeScript files settings path

/-- Carries out what the arguments ask for. -/
def run (files : Files) (args : List String) : Ending :=
  match Request.ofArguments? args with
  | none => { exitCode := 2, complaint := some usageText }
  | some .version => .success versionText []
  | some .help => .success usageText []
  | some (.run i) => i.run files

end Dramaturgy.CommandLine
