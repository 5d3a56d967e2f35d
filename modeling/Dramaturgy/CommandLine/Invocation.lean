/-!
# Invocations

What the arguments of a command line ask for. Long options start with two dashes, short ones with one
dash and may be written together; an option that takes a value has it behind an equals sign, directly
behind its letter, or as the next argument. Behind two dashes that stand alone every argument is the
path of a script.

The arguments are read from left to right, one step for each, and a request for the version or for
help is met as soon as it is reached.
-/

namespace Dramaturgy.CommandLine

/-- The options that take a value. -/
inductive Setting where
  | format
  | settings
deriving DecidableEq, Repr

/-- The options that are given or not. -/
inductive Flag where
  | cast
  | listFormats
  | verbose
deriving DecidableEq, Repr

/-- The options. -/
inductive Switch where
  | setting (s : Setting)
  | flag (f : Flag)
  | version
  | help
deriving DecidableEq, Repr

/-- What to do with which script. -/
structure Invocation where
  /-- The path of the script. -/
  script : Option String := none
  /-- The name of the format to write in. -/
  format : Option String := none
  /-- The path of a document with settings. -/
  settings : Option String := none
  /-- Whether to write out the cast in place of the play. -/
  cast : Bool := false
  /-- Whether to list the formats in place of all else. -/
  listFormats : Bool := false
  /-- Whether to tell all notes. -/
  verbose : Bool := false
deriving DecidableEq, Repr

/-- What the arguments ask for. -/
inductive Request where
  | version
  | help
  | run (invocation : Invocation)
deriving DecidableEq, Repr

/-! ## The names of the options -/

/-- The option with the given long name. -/
def Switch.ofName? (name : String) : Option Switch :=
  match name with
  | "format" => some (.setting .format)
  | "config" => some (.setting .settings)
  | "cast" => some (.flag .cast)
  | "list-formats" => some (.flag .listFormats)
  | "verbose" => some (.flag .verbose)
  | "version" => some .version
  | "help" => some .help
  | _ => none

/-- The option with the given letter. -/
def Switch.ofLetter? (letter : Char) : Option Switch :=
  match letter with
  | 'f' => some (.setting .format)
  | 'c' => some (.setting .settings)
  | 'v' => some (.flag .verbose)
  | 'V' => some .version
  | 'h' => some .help
  | _ => none

namespace Invocation

/-- Gives an option its value, which it must not have yet. -/
def set? (i : Invocation) (s : Setting) (value : String) : Option Invocation :=
  match s with
  | .format => if i.format.isNone then some { i with format := some value } else none
  | .settings => if i.settings.isNone then some { i with settings := some value } else none

/-- Raises a flag, which must not be raised yet. -/
def raise? (i : Invocation) (f : Flag) : Option Invocation :=
  match f with
  | .cast => if i.cast then none else some { i with cast := true }
  | .listFormats => if i.listFormats then none else some { i with listFormats := true }
  | .verbose => if i.verbose then none else some { i with verbose := true }

/-- Takes the path of the script, of which there is one. -/
def path? (i : Invocation) (path : String) : Option Invocation :=
  if i.script.isNone then some { i with script := some path } else none

/-- An invocation at the end of the arguments, which must name a script unless the formats are to be
listed. -/
def complete? (i : Invocation) : Option Request :=
  if i.script.isSome || i.listFormats then some (.run i) else none

end Invocation

/-! ## Reading arguments -/

/-- What has been read of the arguments. -/
inductive Reading where
  | on (i : Invocation)
  /-- The next argument is the value of an option. -/
  | value (s : Setting) (i : Invocation)
  /-- All further arguments are paths. -/
  | paths (i : Invocation)
  /-- The rest of the arguments does not count. -/
  | done (request : Request)

/-- Reads short options that are written together. -/
def letters? (i : Invocation) : List Char → Option Reading
  | [] => some (.on i)
  | c :: s =>
    match Switch.ofLetter? c with
    | none => none
    | some .version => some (.done .version)
    | some .help => some (.done .help)
    | some (.flag f) => (i.raise? f).bind fun i => letters? i s
    | some (.setting option) =>
      match s with
      | [] => some (.value option i)
      | '=' :: value => (i.set? option (String.ofList value)).map .on
      | value => (i.set? option (String.ofList value)).map .on

/-- Reads a long option after its dashes. -/
def name? (i : Invocation) (s : List Char) : Option Reading :=
  let name := s.takeWhile (· != '=')
  match Switch.ofName? (String.ofList name), s.drop name.length with
  | some (.setting option), [] => some (.value option i)
  | some (.setting option), _ :: value => (i.set? option (String.ofList value)).map .on
  | some (.flag f), [] => (i.raise? f).map .on
  | some .version, [] => some (.done .version)
  | some .help, [] => some (.done .help)
  | _, _ => none

/-- Whether an argument is an option, or the mark behind which there are none. -/
def isOption (arg : List Char) : Bool :=
  match arg with
  | '-' :: _ :: _ => true
  | _ => false

/-- Reads an argument. -/
def Reading.step? (arg : String) : Reading → Option Reading
  | .on i =>
    match arg.toList with
    | ['-', '-'] => some (.paths i)
    | '-' :: '-' :: s => name? i s
    | '-' :: c :: s => letters? i (c :: s)
    | _ => (i.path? arg).map .on
  | .value option i => if isOption arg.toList then none else (i.set? option arg).map .on
  | .paths i => (i.path? arg).map .paths
  | .done request => some (.done request)

/-- What arguments ask for; none if they are not well formed. -/
def Request.ofArguments? (args : List String) : Option Request :=
  match args.foldlM (fun reading arg => Reading.step? arg reading) (.on {}) with
  | some (.on i) | some (.paths i) => i.complete?
  | some (.done request) => some request
  | some (.value ..) | none => none

end Dramaturgy.CommandLine
