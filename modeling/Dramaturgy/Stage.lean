import Dramaturgy.Bracket
import Dramaturgy.Note

/-!
# The stage

The stage counts acts, scenes and directions, and builds the graph. Each node takes its id from the
counters as they are when it is made:

    ACT 1.SCENE 2            the second scene
    ACT 1.SCENE 2.3          its third direction
    ACT 1.SCENE 2.Alice      Alice in this scene

Directions and characters are contained by the scene, so that a character who appears in two scenes
has two nodes. An operation gives its result and the stage as it is afterwards. After a fault the
graph is as it was before; only the counter of directions has moved on.
-/

namespace Dramaturgy

/-- How many acts, scenes and directions there have been. -/
structure Position where
  act : Nat := 0
  scene : Nat := 0
  direction : Nat := 0
deriving DecidableEq, Repr

/-- Whom or what a speaker turns to: a character of the current scene, or one of its directions. -/
inductive Target where
  | character (name : String)
  | direction (index : Nat)
deriving DecidableEq, Repr

/-- The last part of a target's id. -/
def Target.localName : Target → String
  | .character name => name
  | .direction index => toString index

/-- The counters, and the graph and the notes so far. -/
structure Stage where
  vocabulary : Vocabulary := {}
  position : Position := {}
  graph : Graph := {}
  notes : List Note := []
deriving DecidableEq, Repr

namespace Stage

/-- The label of the current act. -/
def actLabel (s : Stage) : String :=
  s.vocabulary.actLabel s.position.act

/-- The label of the current scene. -/
def sceneLabel (s : Stage) : String :=
  s.vocabulary.sceneLabel s.position.scene

/-- The id of the current scene. -/
def sceneId (s : Stage) : String :=
  s.actLabel ++ "." ++ s.sceneLabel

/-- The id of something in the current scene. -/
def nodeId (s : Stage) (localName : String) : String :=
  s.sceneId ++ "." ++ localName

/-- Takes notes. -/
def tell (s : Stage) (notes : List Note) : Stage :=
  { s with notes := s.notes ++ notes }

/-! ## Building the graph -/

/-- Adds a node to the graph, and says whether it is new. -/
def addNode (s : Stage) (n : Node) : Except Fault Bool × Stage :=
  match s.graph.addNode n with
  | .error fault => (.error fault, s)
  | .ok (created, graph) =>
    (.ok created, { s with graph, notes := s.notes ++ s.graph.nodeNotes n })

/-- Adds an edge to the graph. -/
def addEdge (s : Stage) (e : Edge) : Except Fault Unit × Stage :=
  match s.graph.addEdge e with
  | .error fault => (.error fault, s)
  | .ok graph => (.ok (), { s with graph, notes := s.notes ++ s.graph.edgeNotes e })

/-! ## Operations -/

/-- Opens the act. There is only one. -/
def openAct (s : Stage) : Except Fault Unit × Stage :=
  if s.position.act > 0 then
    (.error .secondAct, s)
  else
    let s := { s with position := { s.position with act := s.position.act + 1, scene := 0 } }
    (.ok (), s.tell [.act s.actLabel])

/-- The node of the current scene. -/
def sceneNode (s : Stage) : Node :=
  { id := s.sceneId, kind := .scene, label := s.sceneLabel }

/-- Opens the next scene, and gives its node. -/
def openScene (s : Stage) : Except Fault Node × Stage :=
  let s := { s with position := { s.position with scene := s.position.scene + 1, direction := 0 } }
  match s.addNode s.sceneNode with
  | (.error fault, s) => (.error fault, s)
  | (.ok _, s) => (.ok s.sceneNode, s)

/-- The node of the latest direction, with the given text. -/
def directionNode (s : Stage) (text : String) : Node :=
  { id := s.nodeId (toString s.position.direction), kind := .direction, label := text
    parent := some s.sceneId }

/-- Adds a direction to the current scene, and gives its index there. -/
def addDirection (s : Stage) (text : String) : Except Fault Nat × Stage :=
  let s := { s with position := { s.position with direction := s.position.direction + 1 } }
  match s.addNode (s.directionNode text) with
  | (.error fault, s) => (.error fault, s)
  | (.ok _, s) => (.ok s.position.direction, s)

/-- The node of a character in the current scene. -/
def characterNode (s : Stage) (name : String) (tags : List String) : Node :=
  { id := s.nodeId name, kind := .character, label := name, parent := some s.sceneId, tags }

/-- Brings a character on stage, and says whether the character was not there before. -/
def enter (s : Stage) (name : String) (tags : List String) : Except Fault Bool × Stage :=
  s.addNode (s.characterNode name tags)

/-- The edge from a character to a target, both in the current scene. -/
def edgeTo (s : Stage) (speaker : String) (target : Target) (text : String) (tags : List String) :
    Edge :=
  { source := s.nodeId speaker, target := s.nodeId target.localName
    label := withoutFullStop text, tags }

/-- Adds an edge from a character to a target. -/
def address (s : Stage) (speaker : String) (target : Target) (text : String)
    (tags : List String) : Except Fault Unit × Stage :=
  s.addEdge (s.edgeTo speaker target text tags)

end Stage

end Dramaturgy
