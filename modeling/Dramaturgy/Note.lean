import Dramaturgy.Graph

/-!
# Notes

What a performance has to tell besides its result: warnings about text that was read in another way
than its author may have meant it, and a trace of the steps taken. `Report` is a result together with
the notes taken on the way to it, which remain when the result is a fault.
-/

namespace Dramaturgy

/-- How much a note matters. -/
inductive Severity where
  | debug
  | warn
deriving DecidableEq, Repr

/-- The name of a severity. -/
def Severity.name : Severity → String
  | .debug => "debug"
  | .warn => "warn"

/-- A value that goes with a note. -/
inductive Detail where
  | text (value : String)
  | count (value : Nat)
deriving DecidableEq, Repr

/-- Something worth telling about a performance. -/
inductive Note where
  /-- The act is opened. -/
  | act (label : String)
  /-- A scene begins. -/
  | scene (label : String)
  /-- A node is added to the graph. -/
  | node (id : String) (kind : NodeKind)
  /-- An edge is added to the graph. -/
  | edge (source target label : String)
  /-- The tags of a character are opened and never closed. -/
  | unclosedTags (character : String)
  /-- The tag of an addressee is opened and never closed. -/
  | unclosedAddressee (token : String)
  /-- The address in front of a line is opened and never closed. -/
  | unclosedAddress (line : String)
  /-- A stage direction stands without brackets. -/
  | bareDirection (line : String)
  /-- Entries follow the end of the act. -/
  | entriesAfterAct (ignored : Nat)
  /-- Remarks follow the end of a scene. -/
  | remarksAfterScene (ignored : Nat)
  /-- The plot holds more than the one act that is performed. -/
  | furtherActs (act : String)
deriving DecidableEq, Repr

namespace Note

/-- Steps are for finding errors; all else is a warning. -/
def severity : Note → Severity
  | .act .. | .scene .. | .node .. | .edge .. => .debug
  | _ => .warn

/-- The wording of a note. -/
def message : Note → String
  | .act .. => "act"
  | .scene .. => "scene"
  | .node .. => "node"
  | .edge .. => "edge"
  | .unclosedTags _ => "unclosed tag list, treating it as description text"
  | .unclosedAddressee _ => "unclosed addressee tag, treating it as part of the name"
  | .unclosedAddress _ => "addressing clause is never closed, treating the line as a direction"
  | .bareDirection _ => "stage direction is not bracketed, using it verbatim"
  | .entriesAfterAct _ => "entries after the end of the act are ignored"
  | .remarksAfterScene _ => "remarks after the end of the scene are ignored"
  | .furtherActs _ => "only one act is performed, ignoring the rest of PLOT"

/-- The values that go with a note, by name. -/
def details : Note → List (String × Detail)
  | .act label => [("act", .text label)]
  | .scene label => [("scene", .text label)]
  | .node id kind => [("id", .text id), ("kind", .text kind.name)]
  | .edge source target label =>
    [("source", .text source), ("target", .text target), ("label", .text label)]
  | .unclosedTags character => [("character", .text character)]
  | .unclosedAddressee token => [("addressee", .text token)]
  | .unclosedAddress line => [("line", .text line)]
  | .bareDirection line => [("line", .text line)]
  | .entriesAfterAct ignored => [("ignored", .count ignored)]
  | .remarksAfterScene ignored => [("ignored", .count ignored)]
  | .furtherActs label => [("act", .text label)]

end Note

/-! ## Notes on a graph -/

namespace Graph

/-- What adding a node has to tell: a node whose id is taken is passed over in silence. -/
def nodeNotes (g : Graph) (n : Node) : List Note :=
  if g.contains n.id then [] else [.node n.id n.kind]

/-- What adding an edge has to tell. -/
def edgeNotes (g : Graph) (e : Edge) : List Note :=
  if g.contains e.source && g.contains e.target then [.edge e.source e.target e.label] else []

end Graph

/-! ## Reports -/

/-- A result, and the notes taken on the way to it. -/
structure Report (α : Type) where
  outcome : Except Fault α
  notes : List Note := []

namespace Report

/-- A report without notes. -/
def silent {α : Type} (outcome : Except Fault α) : Report α :=
  { outcome }

/-- Goes on from a result. The notes come one after the other, and a fault is the end. -/
def andThen {α β : Type} (r : Report α) (f : α → Report β) : Report β :=
  match r.outcome with
  | .error fault => { outcome := .error fault, notes := r.notes }
  | .ok a => { outcome := (f a).outcome, notes := r.notes ++ (f a).notes }

end Report

/-! ## Building a graph -/

namespace Graph

/-- Adds nodes one after the other. -/
def addNodes (g : Graph) : List Node → Report Graph
  | [] => .silent (.ok g)
  | n :: ns =>
    ({ outcome := (g.addNode n).map (·.2), notes := g.nodeNotes n } : Report Graph).andThen
      fun g => g.addNodes ns

/-- Adds edges one after the other. -/
def addEdges (g : Graph) : List Edge → Report Graph
  | [] => .silent (.ok g)
  | e :: es =>
    ({ outcome := g.addEdge e, notes := g.edgeNotes e } : Report Graph).andThen
      fun g => g.addEdges es

/-- The graph of some nodes and, after them, some edges. -/
def build (nodes : List Node) (edges : List Edge) : Report Graph :=
  (({} : Graph).addNodes nodes).andThen fun g => g.addEdges edges

end Graph

end Dramaturgy
