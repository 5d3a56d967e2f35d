import Dramaturgy.Proofs.Success

/-!
# What a play holds

The nodes and the edges of a play, read off the script. Scene by scene and event by event they are
those that `Event.nodes` and `Event.edges` give for the events of the script, in the same order
(`nodes_of_perform`, `edges_of_perform`).

The stage looks an id up before it adds a node, and nothing is lost by that: ids are pairwise
distinct, and each scene has all of its directions, numbered in their order.
-/

namespace Dramaturgy

open Event

/-! ## Ids -/

namespace Event

variable {scene : String} {events xs : List (Event Character)} {e : Event Character}

/-- The texts of the directions among some events. -/
def directionTexts (events : List (Event Character)) : List String :=
  events.filterMap fun
    | .direction text => some text
    | _ => none

theorem length_directionTexts : (directionTexts events).length = directionCount events := by
  induction events with
  | nil => rfl
  | cons e xs ih => cases e <;> simp_all [directionTexts, isDirection]

/-- An event adds at most one node, under an id that the scene does not have yet. -/
theorem nodes_eq_nil_or_new (scene : String) (hu : Unclashed (xs ++ [e])) : e.nodes scene xs = [] ∨
    ∃ n name, e.nodes scene xs = [n] ∧ n.id = localId scene name ∧ name ∉ names xs ∧
      ∀ k, 1 ≤ k → k ≤ directionCount xs → name ≠ toString k := by
  have hentrance : ∀ c, e.who? = some c → entrance scene xs c = [] ∨
      ∃ n name, entrance scene xs c = [n] ∧ n.id = localId scene name ∧ name ∉ names xs ∧
        ∀ k, 1 ≤ k → k ≤ directionCount xs → name ≠ toString k := by
    intro c hc
    unfold entrance
    by_cases hold : c.name ∈ names xs
    · exact Or.inl (if_pos hold)
    · refine Or.inr ⟨Node.ofCharacter scene c, c.name, if_neg hold, rfl, hold, fun k h1 hk => ?_⟩
      exact hu c.name (by simp [hc]) k h1 (by rw [directionCount_append]; omega)
  cases e with
  | direction text =>
    refine Or.inr ⟨_, _, rfl, rfl, (unclashed_direction.mp hu).2, fun k _ hk h => ?_⟩
    have := toString_inj.mp h
    omega
  | speech c => exact hentrance c rfl
  | address c text tags => exact hentrance c rfl

/-- The ids in a scene are pairwise distinct. -/
theorem nodup_ids (hu : Unclashed events) : ((inTurn (nodes scene) events).map (·.id)).Nodup := by
  induction events using List.reverseRecOn with
  | nil => exact List.nodup_nil
  | append_singleton xs e ih =>
    rw [inTurn_append_singleton]
    rcases nodes_eq_nil_or_new scene hu with hnil | ⟨n, name, hone, hid, hname, hk⟩
    · -- someone who is on stage already
      rw [hnil, List.append_nil]
      exact ih hu.of_append
    · rw [hone, List.map_append, List.nodup_append]
      refine ⟨ih hu.of_append, List.nodup_singleton _, fun a ha b hb hab => ?_⟩
      obtain ⟨m, hm, rfl⟩ := List.mem_map.mp ha
      obtain rfl : b = n.id := by simpa using hb
      exact id_ne_of_new hname hk hm (hab.trans hid)

/-- The nodes of directions are numbered in the order of the scene. -/
theorem filter_direction : (inTurn (nodes scene) events).filter (·.kind = .direction)
    = ((directionTexts events).zipIdx 1).map fun (text, k) => Node.ofDirection scene k text := by
  induction events using List.reverseRecOn with
  | nil => rfl
  | append_singleton xs e ih =>
    have hentrance : ∀ c, (entrance scene xs c).filter (·.kind = .direction) = [] := by
      intro c
      unfold entrance
      split <;> simp [Node.ofCharacter]
    rw [inTurn_append_singleton, List.filter_append, ih]
    cases e with
    | direction text =>
      simp only [directionTexts, List.filterMap_append, List.zipIdx_append, List.map_append]
      rw [← directionTexts, length_directionTexts, Nat.add_comm 1]
      rfl
    | speech c => simp [nodes, hentrance, directionTexts]
    | address c text tags => simp [nodes, hentrance, directionTexts]

end Event

namespace Vocabulary

variable {v : Vocabulary} {scenes : List (List (Event Character))}
  {events : List (Event Character)} {i : Nat}

theorem filter_parent_same (events : List (Event Character)) :
    (v.sceneNodes (i + 1) events).filter (·.parent = some (v.sceneId 1 (i + 1)))
      = inTurn (nodes (v.sceneId 1 (i + 1))) events := by
  rw [sceneNodes, List.filter_cons_of_neg (by simp [sceneNode]), List.filter_eq_self]
  intro n hn
  simpa using (id_of_mem_nodes hn).2

theorem filter_parent_other (events : List (Event Character)) {j : Nat} (hij : j ≠ i) :
    (v.sceneNodes (j + 1) events).filter (·.parent = some (v.sceneId 1 (i + 1))) = [] := by
  refine List.filter_eq_nil_iff.mpr fun n hn => ?_
  rcases List.mem_cons.mp hn with rfl | hn
  · simp [sceneNode]
  · rw [(id_of_mem_nodes hn).2]
    simpa [sceneId_inj] using hij

/-- The nodes in a scene are those of its events. -/
theorem filter_parent (h : scenes[i]? = some events) :
    (v.outline scenes).nodes.filter (·.parent = some (v.sceneId 1 (i + 1)))
      = inTurn (nodes (v.sceneId 1 (i + 1))) events :=
  (filter_flatMap_zipIdx h fun _ other hij _ => filter_parent_other other hij).trans
    (filter_parent_same events)

theorem nodup_ids_outline (hus : ∀ events ∈ scenes, Unclashed events) :
    ((v.outline scenes).nodes.map (·.id)).Nodup := by
  induction scenes using List.reverseRecOn with
  | nil => exact List.nodup_nil
  | append_singleton done current ih =>
    rw [nodes_outline_append_singleton, List.map_append, List.nodup_append]
    refine ⟨ih fun events he => hus events (List.mem_append_left _ he), ?_, ?_⟩
    · rw [sceneNodes, List.map_cons, List.nodup_cons]
      refine ⟨fun hmem => ?_, nodup_ids (hus current (by simp))⟩
      obtain ⟨n, hn, hid⟩ := List.mem_map.mp hmem
      obtain ⟨⟨name, hname⟩, -⟩ := id_of_mem_nodes hn
      exact localId_ne_sceneId (hname.symm.trans hid)
    · -- the ids of two scenes differ, as the scenes do
      intro a ha b hb hab
      obtain ⟨m, hm, rfl⟩ := List.mem_map.mp ha
      obtain ⟨n, hn, rfl⟩ := List.mem_map.mp hb
      rcases List.mem_cons.mp hn with rfl | hn
      · exact Graph.node?_eq_none_iff.mp node?_next_scene m hm hab
      · obtain ⟨⟨name, hname⟩, -⟩ := id_of_mem_nodes hn
        obtain ⟨events, hget, -⟩ := mem_nodes_of_id hm (hab.trans hname)
        have := (List.getElem?_eq_some_iff.mp hget).1
        omega

end Vocabulary

/-! ## Plays -/

namespace Script

variable {v : Vocabulary} {script : Script} {play : Play}

/-- A script with three scenes. In the first one nobody has the floor when it begins, names are not
written as in the roster, a detective speaks to herself, and a dog is only spoken to. Nobody speaks
in the last one. -/
def errand : Script where
  characters := [.single "Alice" "A detective. [User]", .single "Bob" "A clerk.",
    .single "Rex" "A dog. [Agent, Pet]"]
  plot :=
    [.single "ACT 1"
      [.scene (.single "SCENE 1"
        [.direction "[Rain.]",
          .speech (.single "ALICE" ["(To bob[urgent], Alice[aside])Open up.", "[Knocks.]"]),
          .speech (.single "Bob" ["(To Alice, REX[hush],)Coming."]),
          .direction "[The door opens.]"]),
        .scene (.single "SCENE 2" [.speech (.single "Bob" []), .speech (.single "Alice" [])]),
        .scene (.single "SCENE 3" [.direction "[Silence.]"])]]

/-- The events of the errand, with the characters of its roster. -/
def errandEvents : List (List (Event Character)) :=
  let alice : Character := ⟨"Alice", "A detective.", ["User"]⟩
  let bob : Character := ⟨"Bob", "A clerk.", []⟩
  let rex : Character := ⟨"Rex", "A dog.", ["Agent", "Pet"]⟩
  [[.direction "Rain.",
      .speech alice, .address bob "Open up." ["urgent", "aside"],
      .address alice "Open up." ["urgent", "aside"], .direction "Knocks.",
      .speech bob, .address alice "Coming." ["hush"], .address rex "Coming." ["hush"],
      .direction "The door opens."],
    [.speech bob, .speech alice],
    [.direction "Silence."]]

/-- The graph of the errand. -/
def errandGraph : Graph where
  nodes :=
    [{ id := "ACT 1.SCENE 1", kind := .scene, label := "SCENE 1" },
      { id := "ACT 1.SCENE 1.1", kind := .direction, label := "Rain.", parent := "ACT 1.SCENE 1" },
      { id := "ACT 1.SCENE 1.Alice", kind := .character, label := "Alice", tags := ["User"]
        parent := "ACT 1.SCENE 1" },
      { id := "ACT 1.SCENE 1.Bob", kind := .character, label := "Bob", parent := "ACT 1.SCENE 1" },
      { id := "ACT 1.SCENE 1.2", kind := .direction, label := "Knocks."
        parent := "ACT 1.SCENE 1" },
      { id := "ACT 1.SCENE 1.Rex", kind := .character, label := "Rex", tags := ["Agent", "Pet"]
        parent := "ACT 1.SCENE 1" },
      { id := "ACT 1.SCENE 1.3", kind := .direction, label := "The door opens."
        parent := "ACT 1.SCENE 1" },
      { id := "ACT 1.SCENE 2", kind := .scene, label := "SCENE 2" },
      { id := "ACT 1.SCENE 2.Bob", kind := .character, label := "Bob", parent := "ACT 1.SCENE 2" },
      { id := "ACT 1.SCENE 2.Alice", kind := .character, label := "Alice", tags := ["User"]
        parent := "ACT 1.SCENE 2" },
      { id := "ACT 1.SCENE 3", kind := .scene, label := "SCENE 3" },
      { id := "ACT 1.SCENE 3.1", kind := .direction, label := "Silence."
        parent := "ACT 1.SCENE 3" }]
  edges :=
    [{ source := "ACT 1.SCENE 1.Alice", target := "ACT 1.SCENE 1.Bob", label := "Open up"
       tags := ["urgent", "aside"] },
      { source := "ACT 1.SCENE 1.Alice", target := "ACT 1.SCENE 1.Alice", label := "Open up"
        tags := ["urgent", "aside"] },
      { source := "ACT 1.SCENE 1.Alice", target := "ACT 1.SCENE 1.2" },
      { source := "ACT 1.SCENE 1.Bob", target := "ACT 1.SCENE 1.Alice", label := "Coming"
        tags := ["hush"] },
      { source := "ACT 1.SCENE 1.Bob", target := "ACT 1.SCENE 1.Rex", label := "Coming"
        tags := ["hush"] },
      { source := "ACT 1.SCENE 1.Bob", target := "ACT 1.SCENE 1.3" },
      { source := "ACT 1.SCENE 2.Bob", target := "ACT 1.SCENE 2.Alice" }]

theorem staged_errand : errand.staged {} = some errandEvents := by
  rfl

theorem perform_errand : (errand.perform {}).outcome
    = .ok (errand.toPlay (errand.writtenRoster {}) errandGraph) := by
  rfl

/-- **The nodes of a play.** Each scene has its own node and then those of its events, in their
order. No two have one id, and the directions of a scene are all there, by their numbers. -/
theorem nodes_of_perform (h : (script.perform v).outcome = .ok play) :
    ∃ scenes, script.staged v = some scenes ∧ play.roster = script.writtenRoster v ∧
      play.graph.nodes = (scenes.zipIdx 1).flatMap (fun (events, number) =>
        v.sceneNode number :: inTurn (Event.nodes (v.sceneId 1 number)) events) ∧
      (play.graph.nodes.map (·.id)).Nodup ∧
      ∀ i events, scenes[i]? = some events →
        play.graph.nodes.filter
            (fun n => n.kind = .direction && n.parent = some (v.sceneId 1 (i + 1)))
          = ((directionTexts events).zipIdx 1).map fun (text, k) =>
              Node.ofDirection (v.sceneId 1 (i + 1)) k text := by
  obtain ⟨-, scenes, hscenes, hus, rfl⟩ := perform_eq_ok_iff.mp h
  refine ⟨scenes, hscenes, rfl, rfl, Vocabulary.nodup_ids_outline hus, fun i events hget => ?_⟩
  rw [← List.filter_filter]
  show ((v.outline scenes).nodes.filter _).filter _ = _
  rw [Vocabulary.filter_parent hget, filter_direction]

theorem nodes_of_perform_errand : ∃ play, (errand.perform {}).outcome = .ok play ∧
    errand.staged {} = some errandEvents ∧ play.roster = errand.writtenRoster {} ∧
    play.graph.nodes = errandGraph.nodes ∧
    play.graph.nodes = (errandEvents.zipIdx 1).flatMap (fun (events, number) =>
      ({} : Vocabulary).sceneNode number ::
        inTurn (Event.nodes (({} : Vocabulary).sceneId 1 number)) events) ∧
    (play.graph.nodes.map (·.id)).Nodup ∧
    ∀ i events, errandEvents[i]? = some events →
      play.graph.nodes.filter
          (fun n => n.kind = .direction && n.parent = some (({} : Vocabulary).sceneId 1 (i + 1)))
        = ((directionTexts events).zipIdx 1).map fun (text, k) =>
            Node.ofDirection (({} : Vocabulary).sceneId 1 (i + 1)) k text := by
  obtain ⟨scenes, hscenes, hroster, hnodes, hids, hdirections⟩ :=
    nodes_of_perform perform_errand
  obtain rfl : errandEvents = scenes := Option.some_inj.mp (staged_errand.symm.trans hscenes)
  exact ⟨_, perform_errand, staged_errand, hroster, rfl, hnodes, hids, hdirections⟩

/-- **The edges of a play.** They are those of the events of its scenes, in their order. -/
theorem edges_of_perform (h : (script.perform v).outcome = .ok play) :
    ∃ scenes, script.staged v = some scenes ∧
      play.graph.edges = (scenes.zipIdx 1).flatMap fun (events, number) =>
        inTurn (Event.edges (v.sceneId 1 number)) events := by
  obtain ⟨-, scenes, hscenes, -, rfl⟩ := perform_eq_ok_iff.mp h
  exact ⟨scenes, hscenes, rfl⟩

theorem edges_of_perform_errand : ∃ play, (errand.perform {}).outcome = .ok play ∧
    errand.staged {} = some errandEvents ∧ play.graph.edges = errandGraph.edges ∧
    play.graph.edges = (errandEvents.zipIdx 1).flatMap fun (events, number) =>
      inTurn (Event.edges (({} : Vocabulary).sceneId 1 number)) events := by
  obtain ⟨scenes, hscenes, hedges⟩ := edges_of_perform perform_errand
  obtain rfl : errandEvents = scenes := Option.some_inj.mp (staged_errand.symm.trans hscenes)
  exact ⟨_, perform_errand, staged_errand, rfl, hedges⟩

end Script

end Dramaturgy
