import Dramaturgy.Proofs.Outline

/-!
# Graphs under other ids

The events of a scene use the id of the scene only to put ids together. So a renaming that takes the
ids in one scene to those in another takes what the events add here to what they add there
(`map_renamed_nodes`, `map_renamed_edges`), whatever it does to other texts. Nothing but a scene has
its label from where it stands.
-/

namespace Dramaturgy

/-- A node under another id, and in a scene with another id. If it is a scene, its label changes,
too. -/
def Node.renamed (rename relabel : String → String) (n : Node) : Node :=
  { n with
    id := rename n.id
    label := if n.kind = .scene then relabel n.label else n.label
    parent := n.parent.map rename }

/-- An edge whose ends have other ids. -/
def Edge.renamed (rename : String → String) (e : Edge) : Edge :=
  { e with source := rename e.source, target := rename e.target }

/-- A graph under other ids. -/
def Graph.renamed (rename relabel : String → String) (g : Graph) : Graph where
  nodes := g.nodes.map (·.renamed rename relabel)
  edges := g.edges.map (·.renamed rename)

/-- The text that begins with `new` where this one begins with `old`. -/
def exchange (old new s : String) : String :=
  match Text.after? old.toList s.toList with
  | some rest => new ++ String.ofList rest
  | none => s

@[simp] theorem exchange_append (old new rest : String) :
    exchange old new (old ++ rest) = new ++ rest := by
  have h : Text.after? old.toList (old ++ rest).toList = some rest.toList :=
    Text.after?_eq_some_iff.mpr String.toList_append
  simp only [exchange, h, String.ofList_toList]

@[simp] theorem exchange_self (old new : String) : exchange old new old = new := by
  simpa using exchange_append old new ""

namespace Event

variable {scene scene' : String} {rename relabel : String → String}
  {past events : List (Event Character)} {e : Event Character}

theorem map_renamed_nodes (hscene : rename scene = scene')
    (hname : ∀ name, rename (localId scene name) = localId scene' name) :
    (e.nodes scene past).map (·.renamed rename relabel) = e.nodes scene' past := by
  have hentrance : ∀ c, (entrance scene past c).map (·.renamed rename relabel)
      = entrance scene' past c := by
    intro c
    unfold entrance
    split
    · rfl
    · simp [Node.renamed, Node.ofCharacter, hscene, hname]
  cases e with
  | direction text => simp [nodes, Node.renamed, Node.ofDirection, hscene, hname]
  | speech c => exact hentrance c
  | address c text tags => exact hentrance c

theorem map_renamed_edges (hname : ∀ name, rename (localId scene name) = localId scene' name) :
    (e.edges scene past).map (·.renamed rename) = e.edges scene' past := by
  unfold Event.edges
  cases floor? past with
  | none => rfl
  | some speaker =>
    cases e with
    | direction text => simp [edgesFrom, Edge.renamed, hname]
    | speech c =>
      simp only [edgesFrom]
      split
      · rfl
      · simp [Edge.renamed, hname]
    | address c text tags => simp [edgesFrom, Edge.renamed, hname]

end Event

namespace Vocabulary

variable {v v' : Vocabulary} {rename relabel : String → String} {i j : Nat}

/-- The nodes of a scene, renamed, are those of the scene that has its node. -/
theorem map_renamed_sceneNodes (hscene : rename (v.sceneId 1 i) = v'.sceneId 1 j)
    (hname : ∀ name, rename (localId (v.sceneId 1 i) name) = localId (v'.sceneId 1 j) name)
    (hlabel : relabel (v.sceneLabel i) = v'.sceneLabel j) (events : List (Event Character)) :
    (v.sceneNodes i events).map (·.renamed rename relabel) = v'.sceneNodes j events := by
  have hnode : (v.sceneNode i).renamed rename relabel = v'.sceneNode j := by
    simp [Node.renamed, sceneNode, hscene, hlabel]
  rw [sceneNodes, List.map_cons, hnode, map_inTurn]
  simp only [Event.map_renamed_nodes hscene hname]
  rfl

theorem map_renamed_sceneEdges
    (hname : ∀ name, rename (localId (v.sceneId 1 i) name) = localId (v'.sceneId 1 j) name)
    (events : List (Event Character)) :
    (v.sceneEdges i events).map (·.renamed rename) = v'.sceneEdges j events := by
  rw [sceneEdges, map_inTurn]
  simp only [Event.map_renamed_edges hname]
  rfl

end Vocabulary

end Dramaturgy
