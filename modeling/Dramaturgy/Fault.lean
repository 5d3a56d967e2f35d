/-!
# Faults in a script

The reasons for which a script cannot be performed. Each is a cause with what it is about; the
wording is in `Fault.message` alone.
-/

namespace Dramaturgy

/-- The two kinds of record that must have exactly one key. -/
inductive RecordKind where
  | rosterEntry
  | speech
deriving DecidableEq, Repr

/-- What a record of the given kind is called. -/
def RecordKind.name : RecordKind → String
  | .rosterEntry => "CHARACTERS entry"
  | .speech => "speech"

/-- Ways in which a script that can be read still has the wrong form. -/
inductive Malformation where
  | emptyPlot
  | unexpectedMarker (label marker : String)
  | notOneKey (record : RecordKind) (found : Nat)
deriving DecidableEq, Repr

/-- The wording of a malformation. -/
def Malformation.message : Malformation → String
  | .emptyPlot => "PLOT is empty"
  | .unexpectedMarker label marker => "expected '" ++ label ++ "', found '" ++ marker ++ "'"
  | .notOneKey record found =>
    record.name ++ " must have exactly one key, found " ++ toString found

/-- The reasons for which a script cannot be performed. -/
inductive Fault where
  /-- A speaker or an addressee is not in the roster. -/
  | unknownCharacter (name : String)
  /-- Two entries of the roster have the same name but for case. -/
  | duplicateCharacter (name : String)
  /-- A second act is opened. -/
  | secondAct
  /-- The plot has no act, or an act no scene, with the label that is due. -/
  | missingSection (label : String)
  | malformed (malformation : Malformation)
  /-- An edge starts or ends at a node that does not exist. -/
  | danglingEdge (endpoint : String)
  /-- The id of a node is taken by a node of another kind. -/
  | identifierCollision (id : String)
deriving DecidableEq, Repr

/-- The wording of a fault. -/
def Fault.message : Fault → String
  | .unknownCharacter name => "Unknown character '" ++ name ++ "': not listed in CHARACTERS"
  | .duplicateCharacter name =>
    "Character '" ++ name ++ "' is listed more than once in CHARACTERS"
  | .secondAct => "Only single-act plays are supported"
  | .missingSection label => "Plot has no section labelled '" ++ label ++ "'"
  | .malformed malformation => "Malformed script: " ++ malformation.message
  | .danglingEdge endpoint => "Edge endpoint '" ++ endpoint ++ "' does not exist in the graph"
  | .identifierCollision id => "Node id '" ++ id ++ "' is already used by a different kind of node"

end Dramaturgy
