import Dramaturgy.Proofs.Contents
import Dramaturgy.Proofs.Renaming
import Mathlib.Data.List.TakeWhile

/-!
# Scenes on their own

All scenes of a play are performed on one stage and go into one graph. Nothing passes from one scene
to the next all the same: neither who has the floor, nor who is on stage, nor the number of the latest
direction. `perform_scene_by_scene` says so of every script. Each of its scenes may be performed on
its own as the only scene of a script, and the play is what these plays give, one after the other,
with the id of the first scene exchanged for that of the scene in question.
-/

namespace Dramaturgy

open Event

/-! ## Moving the first scene -/

namespace Vocabulary

/-- An id that begins with the id of the first scene, with the id of another scene in its place. -/
def moveId (v : Vocabulary) (number : Nat) (id : String) : String :=
  match Text.after? (v.sceneId 1 1).toList id.toList with
  | some rest => v.sceneId 1 number ++ String.ofList rest
  | none => id

/-- A node of the first scene as it is in another scene. A scene has its label from its number. -/
def moveNode (v : Vocabulary) (number : Nat) (n : Node) : Node :=
  { n with
    id := v.moveId number n.id
    label := if n.kind = .scene then v.sceneLabel number else n.label
    parent := n.parent.map (v.moveId number) }

/-- An edge of the first scene as it is in another scene. -/
def moveEdge (v : Vocabulary) (number : Nat) (e : Edge) : Edge :=
  { e with source := v.moveId number e.source, target := v.moveId number e.target }

variable {v : Vocabulary} {number : Nat} {scenes : List (List (Event Character))}
  {events : List (Event Character)}

theorem moveId_eq_exchange (id : String) :
    v.moveId number id = exchange (v.sceneId 1 1) (v.sceneId 1 number) id := rfl

@[simp] theorem moveId_sceneId : v.moveId number (v.sceneId 1 1) = v.sceneId 1 number :=
  exchange_self ..

@[simp] theorem moveId_localId (name : String) :
    v.moveId number (localId (v.sceneId 1 1) name) = localId (v.sceneId 1 number) name := by
  rw [moveId_eq_exchange, localId, localId, String.append_assoc, exchange_append,
    String.append_assoc]

theorem map_moveNode_sceneNodes :
    (v.sceneNodes 1 events).map (v.moveNode number) = v.sceneNodes number events := by
  show (v.sceneNodes 1 events).map
    (·.renamed (v.moveId number) fun _ => v.sceneLabel number) = _
  exact map_renamed_sceneNodes moveId_sceneId moveId_localId rfl events

theorem map_moveEdge_sceneEdges :
    (v.sceneEdges 1 events).map (v.moveEdge number) = v.sceneEdges number events :=
  map_renamed_sceneEdges moveId_localId events

/-- The nodes of scenes are those of each as the only one, moved to where it stands. -/
theorem nodes_outline_eq_moved : (v.outline scenes).nodes = (scenes.zipIdx 1).flatMap
    fun (events, number) => (v.outline [events]).nodes.map (v.moveNode number) := by
  have hfirst : ∀ events, (v.outline [events]).nodes = v.sceneNodes 1 events := by
    simp [outline]
  simp only [hfirst, map_moveNode_sceneNodes]
  rfl

theorem edges_outline_eq_moved : (v.outline scenes).edges = (scenes.zipIdx 1).flatMap
    fun (events, number) => (v.outline [events]).edges.map (v.moveEdge number) := by
  have hfirst : ∀ events, (v.outline [events]).edges = v.sceneEdges 1 events := by
    simp [outline]
  simp only [hfirst, map_moveEdge_sceneEdges]
  rfl

/-- What comes after the end of a scene does not count. -/
theorem stagedScene_performed (v : Vocabulary) (r : Roster) (remarks : List Remark) :
    v.stagedScene r (v.performed remarks) = v.stagedScene r remarks := by
  have h : v.performed (v.performed remarks) = v.performed remarks := List.takeWhile_idem
  rw [stagedScene, stagedScene, sceneEvents, sceneEvents, h]

end Vocabulary

/-! ## Scripts of one scene -/

namespace Script

/-- A script with the same roster and one scene. -/
def onlyScene (v : Vocabulary) (script : Script) (remarks : List Remark) : Script :=
  { script with
    plot := [.single (v.actLabel 1) [.scene (.single (v.sceneLabel 1) remarks)]] }

/-- The remarks that are performed, scene by scene. There are none to be had if the act is missing or
one of its entries is not the scene that is due. -/
def performedScenes? (v : Vocabulary) (script : Script) : Option (List (List Remark)) :=
  (script.writtenAct? v).bind fun entries =>
    ((v.due entries).zipIdx 1).mapM fun (entry, number) =>
      (v.sceneRemarks? number entry).map v.performed

variable {v : Vocabulary} {script : Script} {remarks : List Remark} {parts : List (List Remark)}
  {play solo : Play}

/-- Scenes are read one by one, whatever their numbers are. -/
theorem staged_eq_mapM (h : script.performedScenes? v = some (parts.map v.performed)) :
    script.staged v = parts.mapM (v.stagedScene (script.writtenRoster v)) := by
  obtain ⟨entries, hact, hentries⟩ := Option.bind_eq_some_iff.mp h
  rw [staged, hact, Option.bind_some, Vocabulary.stagedEntries]
  refine mapM_congr_map ?_
  -- an entry is staged by its remarks up to the end of the scene
  have hentry : ∀ entry : SceneEntry × Nat,
      v.stagedEntry (script.writtenRoster v) entry.2 entry.1
        = ((v.sceneRemarks? entry.2 entry.1).map v.performed).bind
            (v.stagedScene (script.writtenRoster v)) := by
    intro entry
    rw [Vocabulary.stagedEntry, Option.bind_map]
    exact Option.bind_congr fun remarks _ => (v.stagedScene_performed _ remarks).symm
  simp only [hentry]
  have hmap := congrArg (List.map (·.bind (v.stagedScene (script.writtenRoster v))))
    (mapM_eq_some_iff.mp hentries)
  simpa [Function.comp_def, v.stagedScene_performed] using hmap

theorem staged_onlyScene : (script.onlyScene v remarks).staged v
    = (v.stagedScene (script.writtenRoster v) remarks).map ([·]) := by
  have h : (script.onlyScene v remarks).performedScenes? v = some ([remarks].map v.performed) := by
    simp [performedScenes?, onlyScene, writtenAct?, Record.get?, Record.single, Vocabulary.due,
      Vocabulary.sceneRemarks?, Vocabulary.closesAct]
  have hroster : (script.onlyScene v remarks).writtenRoster v = script.writtenRoster v := rfl
  rw [staged_eq_mapM h, hroster, mapM_cons_eq]
  cases v.stagedScene (script.writtenRoster v) remarks <;> rfl

theorem perform_onlyScene_eq_ok_iff (hroster : script.HasRoster) :
    ((script.onlyScene v remarks).perform v).outcome = .ok solo ↔
      ∃ events, v.stagedScene (script.writtenRoster v) remarks = some events ∧ Unclashed events ∧
        solo = script.toPlay (script.writtenRoster v) (v.outline [events]) := by
  rw [perform_eq_ok_iff, staged_onlyScene]
  constructor
  · rintro ⟨-, scenes, hscenes, hus, rfl⟩
    obtain ⟨events, hevents, rfl⟩ := Option.map_eq_some_iff.mp hscenes
    exact ⟨events, hevents, hus events (by simp), rfl⟩
  · rintro ⟨events, hevents, hu, rfl⟩
    refine ⟨⟨hroster.single, hroster.distinct⟩, [events], ?_, by simpa using hu, rfl⟩
    rw [hevents, Option.map_some]

/-- **Scenes are performed on their own.** The parts are the remarks of the scenes of a script, cut
off or not where the word stands that ends the scene. The script is performed if each of them is as
the only scene, and then it gives what they give, moved to where they stand. -/
theorem perform_scene_by_scene (hroster : script.HasRoster)
    (hparts : script.performedScenes? v = some (parts.map v.performed)) :
    ((∃ play, (script.perform v).outcome = .ok play) ↔
      ∀ remarks ∈ parts, ∃ solo, ((script.onlyScene v remarks).perform v).outcome = .ok solo) ∧
    ∀ play, (script.perform v).outcome = .ok play → ∃ solos : List Play,
      List.Forall₂ (fun remarks solo => ((script.onlyScene v remarks).perform v).outcome = .ok solo)
        parts solos ∧
      play.graph.nodes = (solos.zipIdx 1).flatMap (fun (solo, number) =>
        solo.graph.nodes.map (v.moveNode number)) ∧
      play.graph.edges = (solos.zipIdx 1).flatMap (fun (solo, number) =>
        solo.graph.edges.map (v.moveEdge number)) := by
  simp only [perform_onlyScene_eq_ok_iff hroster, perform_eq_ok_iff, staged_eq_mapM hparts]
  constructor
  · constructor
    · rintro ⟨play, -, scenes, hscenes, hus, -⟩ remarks hremarks
      obtain ⟨events, hevents, hu⟩ := exists_mapM_iff.mp ⟨scenes, hscenes, hus⟩ remarks hremarks
      exact ⟨_, events, hevents, hu, rfl⟩
    · intro h
      have hread : ∀ remarks ∈ parts, ∃ events,
          v.stagedScene (script.writtenRoster v) remarks = some events ∧ Unclashed events := by
        intro remarks hremarks
        obtain ⟨-, events, hevents, hu, -⟩ := h remarks hremarks
        exact ⟨events, hevents, hu⟩
      obtain ⟨scenes, hscenes, hus⟩ := exists_mapM_iff.mpr hread
      exact ⟨_, hroster, scenes, hscenes, hus, rfl⟩
  · rintro play ⟨-, scenes, hscenes, hus, rfl⟩
    refine ⟨scenes.map fun events =>
      script.toPlay (script.writtenRoster v) (v.outline [events]), ?_, ?_, ?_⟩
    · have hread := mapM_eq_some_iff_forall₂.mp hscenes
      rw [List.forall₂_map_right_iff, List.forall₂_iff_zip]
      refine ⟨hread.length_eq, fun {remarks events} hmem => ?_⟩
      exact ⟨events, List.forall₂_zip hread hmem, hus _ (List.of_mem_zip hmem).2, rfl⟩
    · rw [List.zipIdx_map, List.flatMap_map]
      exact Vocabulary.nodes_outline_eq_moved
    · rw [List.zipIdx_map, List.flatMap_map]
      exact Vocabulary.edges_outline_eq_moved

/-- The remarks of the scenes of the errand. -/
def errandParts : List (List Remark) :=
  [[.direction "[Rain.]",
      .speech (.single "ALICE" ["(To bob[urgent], Alice[aside])Open up.", "[Knocks.]"]),
      .speech (.single "Bob" ["(To Alice, REX[hush],)Coming."]),
      .direction "[The door opens.]"],
    [.speech (.single "Bob" []), .speech (.single "Alice" [])],
    [.direction "[Silence.]"]]

/-- The ids of the nodes of each scene when it is the only one. -/
def errandPartIds : List (List String) :=
  [["ACT 1.SCENE 1", "ACT 1.SCENE 1.1", "ACT 1.SCENE 1.Alice", "ACT 1.SCENE 1.Bob",
      "ACT 1.SCENE 1.2", "ACT 1.SCENE 1.Rex", "ACT 1.SCENE 1.3"],
    ["ACT 1.SCENE 1", "ACT 1.SCENE 1.Bob", "ACT 1.SCENE 1.Alice"],
    ["ACT 1.SCENE 1", "ACT 1.SCENE 1.1"]]

theorem perform_scene_by_scene_errand :
    errand.HasRoster ∧
    errand.performedScenes? {} = some (errandParts.map ({} : Vocabulary).performed) ∧
    ∃ play, (errand.perform {}).outcome = .ok play ∧ play.graph = errandGraph ∧
      ∃ solos : List Play,
        List.Forall₂ (fun remarks solo =>
          ((errand.onlyScene {} remarks).perform {}).outcome = .ok solo) errandParts solos ∧
        solos.map (·.graph.nodes.map (·.id)) = errandPartIds ∧
        play.graph.nodes = (solos.zipIdx 1).flatMap (fun (solo, number) =>
          solo.graph.nodes.map (({} : Vocabulary).moveNode number)) ∧
        play.graph.edges = (solos.zipIdx 1).flatMap (fun (solo, number) =>
          solo.graph.edges.map (({} : Vocabulary).moveEdge number)) := by
  have hparts : errand.performedScenes? {}
      = some (errandParts.map ({} : Vocabulary).performed) := rfl
  have hroster := (perform_eq_ok_iff.mp perform_errand).1
  obtain ⟨solos, hsolos, hnodes, hedges⟩ :=
    (perform_scene_by_scene hroster hparts).2 _ perform_errand
  refine ⟨hroster, hparts, _, perform_errand, rfl, solos, hsolos, ?_, hnodes, hedges⟩
  have hids : errandParts.map (fun remarks =>
        ((errand.onlyScene {} remarks).perform {}).outcome.map fun solo =>
          solo.graph.nodes.map (·.id))
      = (solos.map (·.graph.nodes.map (·.id))).map .ok := by
    rw [List.map_map, ← List.forall₂_eq_eq_eq, List.forall₂_map_left_iff,
      List.forall₂_map_right_iff]
    exact hsolos.imp fun remarks solo h => by rw [h]; rfl
  have hsame : (solos.map (·.graph.nodes.map (·.id))).map Except.ok = errandPartIds.map .ok :=
    hids.symm.trans rfl
  exact List.map_injective_iff.mpr (fun _ _ => Except.ok.inj) hsame

end Script

end Dramaturgy
