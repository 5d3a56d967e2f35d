import Dramaturgy.Cast
import Dramaturgy.Proofs.Recast
import Dramaturgy.Proofs.Spelling

/-!
# The cast and the play

The cast of a script takes the names in the roster for ids, and a node whose id is taken would be
passed over or refused. Names that are different in upper case are different, so that nobody is passed
over; somebody is refused only if their name is that of the legend, in this very spelling. Casts and
plays then agree: whoever is on stage somewhere is in the cast once, with the same tags
(`Script.cast_of_hasRoster`).
-/

namespace Dramaturgy

/-! ## Nodes with ids of their own -/

namespace Graph

variable {g : Graph} {n m : Node}

theorem addNodes_append : ∀ (g : Graph) (nodes more : List Node),
    (g.addNodes (nodes ++ more)).outcome
      = (g.addNodes nodes).outcome.bind fun g => (g.addNodes more).outcome
  | g, [], more => rfl
  | g, n :: nodes, more => by
    rw [List.cons_append, addNodes, addNodes, Report.outcome_andThen, Report.outcome_andThen]
    cases g.addNode n with
    | error fault => rfl
    | ok added => exact addNodes_append added.2 nodes more

/-- Nodes are all added if their ids are not taken. -/
theorem addNodes_of_nodup : ∀ {nodes : List Node} {g : Graph},
    ((g.nodes ++ nodes).map (·.id)).Nodup →
    (g.addNodes nodes).outcome = .ok { g with nodes := g.nodes ++ nodes }
  | [], g, _ => by simp [addNodes, Report.silent]
  | n :: nodes, g, h => by
    have hnew : g.node? n.id = none := by
      rw [node?_eq_none_iff]
      rw [List.map_append, List.nodup_append] at h
      exact fun m hm => h.2.2 m.id (List.mem_map_of_mem hm) n.id (by simp)
    have hids : (((g.nodes ++ [n]) ++ nodes).map (·.id)).Nodup := by simpa using h
    have hrest := addNodes_of_nodup (g := { g with nodes := g.nodes ++ [n] }) hids
    rw [addNodes, Report.outcome_andThen, addNode_of_none hnew]
    simpa [Except.map, Except.bind] using hrest

theorem filter_eq_singleton {nodes : List Node} (hdistinct : (nodes.map (·.id)).Nodup)
    (hm : m ∈ nodes) {p : Node → Bool} (hp : ∀ n ∈ nodes, p n ↔ n.kind = m.kind ∧ n.id = m.id) :
    nodes.filter p = [m] := by
  have hsame : nodes.filter p = nodes.filter (· = m) := by
    refine List.filter_congr fun n hn => ?_
    rw [Bool.eq_iff_iff, hp n hn, decide_eq_true_eq]
    constructor
    · rintro ⟨-, hid⟩
      exact List.inj_on_of_nodup_map hdistinct hn hm hid
    · rintro rfl
      exact ⟨rfl, rfl⟩
  rw [hsame, List.filter_eq, List.count_eq_one_of_mem hdistinct.of_map hm]
  rfl

end Graph

/-! ## Casts -/

namespace Roster

variable {r : Roster} {c : Character}

theorem map_id_castNode (characters : List Character) :
    (characters.map (·.castNode)).map (·.id) = characters.map (·.name) := by
  rw [List.map_map]
  rfl

/-- Nobody in a roster is left out of the cast. -/
theorem cast_eq_ok (hdistinct : (r.characters.map (·.name)).Nodup)
    (hnot : "direction" ∉ r.characters.map (·.name)) :
    r.cast.outcome = .ok { nodes := directionLegend :: r.characters.map (·.castNode) } := by
  have hids : ((directionLegend :: r.characters.map (·.castNode)).map (·.id)).Nodup := by
    rw [List.map_cons, map_id_castNode]
    exact List.nodup_cons.mpr ⟨hnot, hdistinct⟩
  rw [cast, Graph.build, Report.outcome_andThen, Graph.addNodes_of_nodup (g := {}) hids]
  rfl

/-- Somebody has the name of the legend, and then there is no cast. -/
theorem cast_eq_error (hdistinct : (r.characters.map (·.name)).Nodup) (hc : c ∈ r.characters)
    (hname : c.name = "direction") : r.cast.outcome = .error (.identifierCollision "direction") := by
  obtain ⟨before, after, hsplit⟩ := List.append_of_mem hc
  rw [hsplit, List.map_append, List.map_cons, List.nodup_append] at hdistinct
  -- those who come before are added to the legend
  have hids : ((directionLegend :: before.map (·.castNode)).map (·.id)).Nodup := by
    rw [List.map_cons, map_id_castNode]
    refine List.nodup_cons.mpr ⟨fun hmem => ?_, hdistinct.1⟩
    exact hdistinct.2.2 _ hmem c.name List.mem_cons_self hname.symm
  have hclash : ({ nodes := directionLegend :: before.map (·.castNode) } : Graph).addNode c.castNode
      = .error (.identifierCollision "direction") := by
    have hlegend : ({ nodes := directionLegend :: before.map (·.castNode) } : Graph).node?
        c.castNode.id = some directionLegend := by
      rw [Graph.node?, show c.castNode.id = "direction" from hname]
      rfl
    have hkind : directionLegend.kind ≠ c.castNode.kind := NodeKind.noConfusion
    have hrefused := Graph.addNode_of_other_kind hlegend hkind
    rwa [show c.castNode.id = "direction" from hname] at hrefused
  have hnodes : directionLegend :: r.characters.map (·.castNode)
      = (directionLegend :: before.map (·.castNode)) ++ c.castNode :: after.map (·.castNode) := by
    rw [hsplit, List.map_append]
    rfl
  have hadded := Graph.addNodes_of_nodup (g := {}) hids
  rw [cast, Graph.build, Report.outcome_andThen, hnodes, Graph.addNodes_append, hadded]
  simp only [Except.bind, List.nil_append, Graph.addNodes, Report.outcome_andThen, hclash,
    Except.map]

end Roster

namespace Script

variable {v : Vocabulary} {script : Script} {cast play : Play}

/-- A graph introduces the roster of a script. -/
structure Introduced (v : Vocabulary) (script : Script) (g : Graph) : Prop where
  /-- After the legend there is a node for each record, in the order of the records. -/
  nodes : ∃ nodes, g.nodes = directionLegend :: nodes ∧
    List.Forall₂ (fun record n => ∃ name value, record.entries = [(name, value)] ∧ n.id = name ∧
      n.kind = .character ∧ n.tags = (Character.ofEntry v name value).tags) script.characters nodes
  distinct : (g.nodes.map (·.id)).Nodup
  roots : ∀ n ∈ g.nodes, n.parent = none
  edges : g.edges = []

theorem HasRoster.nodup_names (h : script.HasRoster) :
    ((script.writtenRoster v).characters.map (·.name)).Nodup := by
  rw [map_name_writtenRoster]
  exact h.distinct.of_map

theorem HasRoster.outcome_cast (h : script.HasRoster) (v : Vocabulary) :
    (script.cast v).outcome = (script.writtenRoster v).cast.outcome.map fun g =>
      script.toPlay (script.writtenRoster v) g := by
  rcases roster_cases v script with ⟨-, hread⟩ | ⟨-, hnot, -⟩
  · rw [Script.cast, Report.outcome_andThen, hread]
    simp only [Except.bind, Report.outcome_andThen]
    cases (script.writtenRoster v).cast.outcome <;> rfl
  · exact absurd h hnot

theorem HasRoster.cast_cases (h : script.HasRoster) (v : Vocabulary) :
    ("direction" ∉ script.writtenNames ∧ (script.cast v).outcome
      = .ok (script.toPlay (script.writtenRoster v)
          { nodes := directionLegend :: (script.writtenRoster v).characters.map (·.castNode) })) ∨
    "direction" ∈ script.writtenNames ∧
      (script.cast v).outcome = .error (.identifierCollision "direction") := by
  rw [h.outcome_cast v, ← map_name_writtenRoster (v := v)]
  by_cases hname : "direction" ∈ (script.writtenRoster v).characters.map (·.name)
  · obtain ⟨c, hc, hcname⟩ := List.mem_map.mp hname
    refine .inr ⟨hname, ?_⟩
    rw [Roster.cast_eq_error h.nodup_names hc hcname]
    rfl
  · refine .inl ⟨hname, ?_⟩
    rw [Roster.cast_eq_ok h.nodup_names hname]
    rfl

theorem HasRoster.introduced (h : script.HasRoster) (hnot : "direction" ∉ script.writtenNames) :
    script.Introduced v
      { nodes := directionLegend :: (script.writtenRoster v).characters.map (·.castNode) } where
  nodes := by
    refine ⟨_, rfl, ?_⟩
    rw [List.forall₂_map_right_iff]
    refine h.forall₂_enrolled.imp fun record c ⟨name, value, hentries, hc⟩ => ?_
    have hname : c.castNode.id = name := (congrArg (·.name) hc).trans (Roster.name_ofEntry ..)
    exact ⟨name, value, hentries, hname, rfl, congrArg (·.tags) hc⟩
  distinct := by
    rw [List.map_cons, Roster.map_id_castNode, List.nodup_cons, map_name_writtenRoster]
    exact ⟨hnot, h.distinct.of_map⟩
  roots n hn := by
    rcases List.mem_cons.mp hn with rfl | hn
    · rfl
    · obtain ⟨c, -, rfl⟩ := List.mem_map.mp hn
      rfl
  edges := rfl

/-- **The cast and the play agree.** If the roster of a script can be read, its cast can be had unless
somebody is called as the legend, and it introduces the roster. If the script is performed as well,
both plays have the same roster and say the same of themselves, and for everybody on stage in a scene
there is just one node in the cast, with the same tags. -/
theorem cast_of_hasRoster (h : script.HasRoster) (v : Vocabulary) :
    ((∃ cast, (script.cast v).outcome = .ok cast) ↔ "direction" ∉ script.writtenNames) ∧
    ("direction" ∈ script.writtenNames →
      (script.cast v).outcome = .error (.identifierCollision "direction")) ∧
    ∀ cast, (script.cast v).outcome = .ok cast → script.Introduced v cast.graph ∧
      ∀ play, (script.perform v).outcome = .ok play →
        (cast.title = play.title ∧ cast.author = play.author ∧ cast.synopsis = play.synopsis ∧
          cast.roster = play.roster) ∧
        ∀ n ∈ play.graph.nodes, n.kind = .character → ∃ m,
          cast.graph.nodes.filter (fun m => m.kind = .character ∧ m.id = n.label) = [m] ∧
          m.tags = n.tags := by
  rcases h.cast_cases v with ⟨hnot, hcast⟩ | ⟨hname, hcast⟩
  · have hintroduced := h.introduced (v := v) hnot
    rw [hcast]
    refine ⟨iff_of_true ⟨_, rfl⟩ hnot, fun hname => absurd hname hnot, ?_⟩
    rintro _ ⟨⟩
    refine ⟨hintroduced, fun play hplay => ?_⟩
    obtain ⟨-, scenes, hscenes, -, rfl⟩ := perform_eq_ok_iff.mp hplay
    refine ⟨⟨rfl, rfl, rfl, rfl⟩, fun n hn hkind => ?_⟩
    -- whoever is on stage comes from the roster
    obtain ⟨scene, -, -, c, hc, rfl⟩ := (calledByRoster_toPlay hscenes).nodes n hn hkind
    have hmem := List.mem_cons_of_mem directionLegend (List.mem_map_of_mem (f := (·.castNode)) hc)
    exact ⟨c.castNode, Graph.filter_eq_singleton hintroduced.distinct hmem
      fun n _ => by rw [decide_eq_true_eq]; rfl, rfl⟩
  · rw [hcast]
    exact ⟨iff_of_false nofun (not_not_intro hname), fun _ => rfl, nofun⟩

/-- A script with somebody who is called as the legend but for a capital. -/
def overheard : Script where
  title := some "Overheard"
  characters := [.single "Direction" "A voice. [Off]", .single "Ann" "A guest. [User]"]
  plot := [.single "ACT 1" [.scene (.single "SCENE 1"
    [.speech (.single "ANN" ["(To direction)Who is there?", "[Knocks.]"])])]]

theorem cast_of_hasRoster_overheard : overheard.HasRoster ∧
    "direction" ∉ overheard.writtenNames ∧
    ∃ cast play, (overheard.cast {}).outcome = .ok cast ∧
      (overheard.perform {}).outcome = .ok play ∧
      cast.title = some "Overheard" ∧
      cast.graph.nodes.map (·.id) = ["direction", "Direction", "Ann"] ∧
      overheard.Introduced {} cast.graph ∧ cast.roster = play.roster ∧
      ∀ n ∈ play.graph.nodes, n.kind = .character → ∃ m,
        cast.graph.nodes.filter (fun m => m.kind = .character ∧ m.id = n.label) = [m] ∧
        m.tags = n.tags := by
  have hplay : (overheard.perform {}).outcome = .ok _ := rfl
  have hcast : (overheard.cast {}).outcome = .ok _ := rfl
  have hroster : overheard.HasRoster := (perform_eq_ok_iff.mp hplay).1
  obtain ⟨hiff, -, hagree⟩ := cast_of_hasRoster hroster {}
  obtain ⟨hintroduced, hperformed⟩ := hagree _ hcast
  obtain ⟨⟨-, -, -, hsame⟩, honstage⟩ := hperformed _ hplay
  exact ⟨hroster, hiff.mp ⟨_, hcast⟩, _, _, hcast, hplay, rfl, rfl, hintroduced, hsame, honstage⟩

end Script

end Dramaturgy
