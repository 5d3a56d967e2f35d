import Dramaturgy.Graph
import Dramaturgy.Text.Quoted

/-!
# Inspecting a graph

Expectations of a graph, for use in tests of scripts. An expectation of a node or an edge holds
several traits, which are looked at one after the other. `Graph.complaint?` gives the message of the
first thing that is not as expected, and nothing if all is.
-/

namespace Dramaturgy

open Text

/-- What is expected of a node. -/
inductive NodeTrait where
  | kind (kind : NodeKind)
  | label (label : String)
  | parent (parent : Option String)
  | tags (tags : List String)
deriving DecidableEq, Repr

/-- What is expected of an edge. -/
inductive EdgeTrait where
  | source (id : String)
  | target (id : String)
  | label (label : String)
  | tags (tags : List String)
  | bare
deriving DecidableEq, Repr

/-- What is expected of a graph. -/
inductive Expectation where
  | nodeCount (count : Nat)
  | edgeCount (count : Nat)
  | kindCount (kind : NodeKind) (count : Nat)
  /-- The ids of all nodes in their order. -/
  | nodeIds (ids : List String)
  | noNode (id : String)
  | node (id : String) (traits : List NodeTrait)
  | edge (index : Nat) (traits : List EdgeTrait)
deriving DecidableEq, Repr

/-! ## Messages -/

/-- The message that a value is not the expected one, both being written out. -/
def mismatch (what found expected : String) : String :=
  "assertion `left == right` failed: " ++ what ++ "\n  left: " ++ found ++ "\n right: " ++ expected

/-- The complaint about a value, if it is not the expected one. -/
def complainUnless {α : Type} [DecidableEq α] (write : α → String) (what : String)
    (found expected : α) : Option String :=
  if found = expected then none else some (mismatch what (write found) (write expected))

/-- The name of a kind as it is written out in a message. -/
def NodeKind.written : NodeKind → String
  | .scene => "Scene"
  | .direction => "Direction"
  | .character => "Character"

/-- The nodes of a graph on one line. -/
def Graph.nodeSummary (g : Graph) : String :=
  ", ".intercalate (g.nodes.map fun n => n.kind.name ++ ":" ++ n.id)

/-- The edges of a graph on one line. -/
def Graph.edgeSummary (g : Graph) : String :=
  ", ".intercalate (g.edges.map fun e => e.source ++ " -> " ++ e.target ++ " '" ++ e.label ++ "'")

/-! ## Checking -/

/-- The complaint about a node. -/
def NodeTrait.complaint? (n : Node) : NodeTrait → Option String
  | .kind expected => complainUnless NodeKind.written (n.id ++ ": kind") n.kind expected
  | .label expected => complainUnless quoted (n.id ++ ": label") n.label expected
  | .parent expected => complainUnless quotedOption (n.id ++ ": parent") n.parent expected
  | .tags expected => complainUnless quotedList (n.id ++ ": tags") n.tags expected

/-- The complaint about an edge, which the message calls `name`. -/
def EdgeTrait.complaint? (name : String) (e : Edge) : EdgeTrait → Option String
  | .source expected => complainUnless quoted (name ++ ": source") e.source expected
  | .target expected => complainUnless quoted (name ++ ": target") e.target expected
  | .label expected => complainUnless quoted (name ++ ": label") e.label expected
  | .tags expected => complainUnless quotedList (name ++ ": tags") e.tags expected
  | .bare =>
    if e.isBare then none
    else some (name ++ ": expected a bare edge, found label '" ++ e.label ++ "' and tags " ++
      quotedList e.tags)

/-- The first thing about a graph that is not as expected. -/
def Graph.complaint? (g : Graph) : Expectation → Option String
  | .nodeCount count =>
    let found := g.nodes.length
    complainUnless toString
      ("Expected " ++ toString count ++ " nodes, found " ++ toString found ++ ": [" ++
        g.nodeSummary ++ "]")
      found count
  | .edgeCount count =>
    let found := g.edges.length
    complainUnless toString
      ("Expected " ++ toString count ++ " edges, found " ++ toString found ++ ": [" ++
        g.edgeSummary ++ "]")
      found count
  | .kindCount kind count =>
    let found := g.nodes.countP (·.kind == kind)
    complainUnless toString
      ("Expected " ++ toString count ++ " " ++ kind.name ++ " nodes, found " ++ toString found ++
        ": [" ++ g.nodeSummary ++ "]")
      found count
  | .nodeIds ids => complainUnless quotedList "Node ids differ" (g.nodes.map (·.id)) ids
  | .noNode id => if g.contains id then some ("Unexpected node '" ++ id ++ "'") else none
  | .node id traits =>
    match g.node? id with
    | none => some ("No node '" ++ id ++ "' (graph has: [" ++ g.nodeSummary ++ "])")
    | some n => traits.findSome? (NodeTrait.complaint? n)
  | .edge index traits =>
    match g.edges[index]? with
    | none =>
      some ("Edge index " ++ toString index ++ " out of bounds (graph has " ++
        toString g.edges.length ++ " edges: [" ++ g.edgeSummary ++ "])")
    | some e =>
      traits.findSome? (EdgeTrait.complaint? ("edges[" ++ toString index ++ "]") e)

end Dramaturgy
