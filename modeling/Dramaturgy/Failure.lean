import Dramaturgy.Fault

/-!
# Failures

The reasons for which no play is written out: faults of a script, and what can go wrong before a
script is performed or after that. The wording is in `Failure.message` alone.
-/

namespace Dramaturgy

/-- The reasons for which no play is written out. -/
inductive Failure where
  /-- The file of the script is missing or is not text. -/
  | unreadable
  /-- The text of the script does not have the form of one. -/
  | notAScript
  /-- The settings cannot be read or do not have their form. -/
  | badSettings
  | fault (cause : Fault)
  | missingFormat (name : String)
deriving DecidableEq, Repr

/-- The wording of a failure. -/
def Failure.message : Failure → String
  | .unreadable => "IO error"
  | .notAScript => "YAML error"
  | .badSettings => "Configuration error"
  | .fault cause => cause.message
  | .missingFormat name => "Format '" ++ name ++ "' not found"

end Dramaturgy
