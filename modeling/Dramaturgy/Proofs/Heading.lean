import Dramaturgy.Proofs.Renaming
import Dramaturgy.Proofs.WellFormed
import Mathlib.Data.Set.Function

/-!
# Headings are only names

What stands before the numbers of acts and scenes may be exchanged. Two scripts are the same but for
that if what one has under the labels of one vocabulary the other has under the labels of another
one (`Script.SameHeaded`). The headings go into the ids, and it is by their ids that nodes are told
apart; yet the same performance comes of both scripts, under ids in which one heading stands for
the other (`perform_headings`). No choice of headings makes two ids one, or parts an edge from its
ends.
-/

namespace Dramaturgy

open Event

/-! ## Scripts under other headings -/

namespace Vocabulary

/-- Two vocabularies are the same but for the headings. -/
def SameMarks (v v' : Vocabulary) : Prop :=
  v' = { v with actHeading := v'.actHeading, sceneHeading := v'.sceneHeading }

/-- Two entries, in whose place the scene with the given number is due, say the same: what one has
under the label of one vocabulary, if anything, the other has under that of the other. -/
inductive SameHeadedEntry (v v' : Vocabulary) (number : Nat) : SceneEntry → SceneEntry → Prop where
  | marker (text : String) : SameHeadedEntry v v' number (.marker text) (.marker text)
  | scene {scene other : Record (List Remark)} :
    scene.get? (v.sceneLabel number) = other.get? (v'.sceneLabel number) →
    SameHeadedEntry v v' number (.scene scene) (.scene other)

/-- Entries say the same, one by one. The first ones have the given number. -/
inductive SameHeadedEntries (v v' : Vocabulary) :
    Nat → List SceneEntry → List SceneEntry → Prop where
  | nil (number : Nat) : SameHeadedEntries v v' number [] []
  | cons {number : Nat} {entry other : SceneEntry} {entries others : List SceneEntry} :
    v.SameHeadedEntry v' number entry other → SameHeadedEntries v v' (number + 1) entries others →
    SameHeadedEntries v v' number (entry :: entries) (other :: others)

end Vocabulary

/-- Two scripts are the same but for the headings: each has the act under its own label. -/
structure Script.SameHeaded (v v' : Vocabulary) (script other : Script) : Prop where
  title : script.title = other.title
  author : script.author = other.author
  synopsis : script.synopsis = other.synopsis
  characters : script.characters = other.characters
  plot : ∃ entries others, script.writtenAct? v = some entries ∧
    other.writtenAct? v' = some others ∧ v.SameHeadedEntries v' 1 entries others

/-! ## The same events -/

namespace Vocabulary

variable {v v' : Vocabulary} {roster : Roster} {number : Nat} {entry other : SceneEntry}
  {entries others : List SceneEntry}

/-- Nothing in a scene is read by the headings. -/
theorem SameMarks.stagedScene_eq (h : v.SameMarks v') (remarks : List Remark) :
    v.stagedScene roster remarks = v'.stagedScene roster remarks := by
  rw [h]
  rfl

theorem SameMarks.ofEntry_eq (h : v.SameMarks v') (name value : String) :
    Character.ofEntry v name value = Character.ofEntry v' name value := by
  have hbrackets : v.bracketed = v'.bracketed := by
    rw [h]
    rfl
  have htags : v.tagList = v'.tagList := by
    rw [h]
    rfl
  rw [Character.ofEntry, Character.ofEntry, hbrackets, htags]

theorem SameHeadedEntry.closesAct_eq (hv : v.SameMarks v')
    (h : v.SameHeadedEntry v' number entry other) : v.closesAct entry = v'.closesAct other := by
  cases h with
  | marker text =>
    rw [hv]
    rfl
  | scene hget => rfl

theorem SameHeadedEntry.stagedEntry_eq (hv : v.SameMarks v')
    (h : v.SameHeadedEntry v' number entry other) :
    v.stagedEntry roster number entry = v'.stagedEntry roster number other := by
  cases h with
  | marker text => rfl
  | @scene scene other hget =>
    rw [stagedEntry, stagedEntry, sceneRemarks?, sceneRemarks?, hget]
    exact Option.bind_congr fun remarks _ => hv.stagedScene_eq remarks

theorem SameHeadedEntries.stagedEntries_eq (hv : v.SameMarks v')
    (h : v.SameHeadedEntries v' number entries others) :
    v.stagedEntries roster number entries = v'.stagedEntries roster number others := by
  induction h with
  | nil number => rfl
  | @cons number entry other entries others hentry _ ih =>
    have hends := hentry.closesAct_eq hv
    cases hend : v.closesAct entry with
    | true => rw [stagedEntries_of_closes hend, stagedEntries_of_closes (hends ▸ hend)]
    | false =>
      rw [stagedEntries_cons hend, stagedEntries_cons (hends ▸ hend), ih, hentry.stagedEntry_eq hv]

end Vocabulary

namespace Script

variable {v v' : Vocabulary} {script other : Script} {play play' : Play}

theorem SameHeaded.writtenRoster_eq (hv : v.SameMarks v') (h : script.SameHeaded v v' other) :
    script.writtenRoster v = other.writtenRoster v' := by
  rw [writtenRoster, writtenRoster, writtenEntries_congr h.characters]
  simp only [hv.ofEntry_eq]

theorem SameHeaded.hasRoster_iff (h : script.SameHeaded v v' other) :
    script.HasRoster ↔ other.HasRoster :=
  ⟨fun hr => hr.of_characters h.characters, fun hr => hr.of_characters h.characters.symm⟩

theorem SameHeaded.staged_eq (hv : v.SameMarks v') (h : script.SameHeaded v v' other) :
    script.staged v = other.staged v' := by
  obtain ⟨entries, others, hact, hact', hentries⟩ := h.plot
  rw [staged, staged, hact, hact', h.writtenRoster_eq hv]
  exact hentries.stagedEntries_eq hv

theorem SameHeaded.toPlay_eq (h : script.SameHeaded v v' other) (roster : Roster) (g : Graph) :
    script.toPlay roster g = other.toPlay roster g := by
  rw [toPlay, toPlay, h.title, h.author, h.synopsis]

end Script

/-! ## The same graph under other ids -/

namespace Vocabulary

variable {v v' : Vocabulary} {number : Nat} {name id : String}
  {scenes : List (List (Event Character))}

/-- What every id in a play begins with. -/
def idHeading (v : Vocabulary) : String :=
  v.actLabel 1 ++ "." ++ v.sceneHeading

/-- The id with the headings of another vocabulary. -/
def retarget (v v' : Vocabulary) (id : String) : String :=
  exchange v.idHeading v'.idHeading id

/-- The label of a scene with the heading of another vocabulary. -/
def retargetLabel (v v' : Vocabulary) (label : String) : String :=
  exchange v.sceneHeading v'.sceneHeading label

theorem sceneId_eq_idHeading (v : Vocabulary) (number : Nat) :
    v.sceneId 1 number = v.idHeading ++ toString number := by
  rw [sceneId, sceneLabel, idHeading, String.append_assoc, String.append_assoc, String.append_assoc]

@[simp] theorem retarget_sceneId (v v' : Vocabulary) (number : Nat) :
    v.retarget v' (v.sceneId 1 number) = v'.sceneId 1 number := by
  rw [sceneId_eq_idHeading, sceneId_eq_idHeading, retarget, exchange_append]

@[simp] theorem retarget_localId (v v' : Vocabulary) (number : Nat) (name : String) :
    v.retarget v' (localId (v.sceneId 1 number) name) = localId (v'.sceneId 1 number) name := by
  rw [sceneId_eq_idHeading, sceneId_eq_idHeading, localId, localId, String.append_assoc,
    String.append_assoc, String.append_assoc, String.append_assoc, retarget, exchange_append]

@[simp] theorem retargetLabel_sceneLabel (v v' : Vocabulary) (number : Nat) :
    v.retargetLabel v' (v.sceneLabel number) = v'.sceneLabel number :=
  exchange_append ..

/-- The same events make the same graph under any headings, but for its ids and the labels of
scenes. -/
theorem renamed_outline (v v' : Vocabulary) (scenes : List (List (Event Character))) :
    (v.outline scenes).renamed (v.retarget v') (v.retargetLabel v') = v'.outline scenes := by
  rw [Graph.renamed, outline, outline, Graph.mk.injEq, List.map_flatMap, List.map_flatMap]
  refine ⟨List.flatMap_congr fun scene _ => ?_, List.flatMap_congr fun scene _ => ?_⟩
  · exact map_renamed_sceneNodes (retarget_sceneId v v' scene.2) (retarget_localId v v' scene.2)
      (retargetLabel_sceneLabel v v' scene.2) scene.1
  · exact map_renamed_sceneEdges (retarget_localId v v' scene.2) scene.1

/-- Every id in a play is that of a scene, or in one. -/
theorem retarget_retarget (v' : Vocabulary) {n : Node} (h : n ∈ (v.outline scenes).nodes) :
    v'.retarget v (v.retarget v' n.id) = n.id := by
  rcases mem_nodes_outline_cases h with ⟨i, rfl⟩ | ⟨i, events, -, hmem⟩
  · rw [sceneNode, retarget_sceneId, retarget_sceneId]
  · obtain ⟨⟨name, hname⟩, -⟩ := id_of_mem_nodes hmem
    rw [hname, retarget_localId, retarget_localId]

end Vocabulary

/-! ## Plays -/

/-- The ids of the nodes of a graph. -/
def Graph.ids (g : Graph) : Set String :=
  {id | ∃ n ∈ g.nodes, n.id = id}

theorem Vocabulary.bijOn_retarget (v v' : Vocabulary) (scenes : List (List (Event Character))) :
    Set.BijOn (v.retarget v') (v.outline scenes).ids (v'.outline scenes).ids := by
  rw [← renamed_outline v v' scenes]
  refine ⟨?_, ?_, ?_⟩
  · rintro _ ⟨n, hn, rfl⟩
    exact ⟨_, List.mem_map_of_mem hn, rfl⟩
  · -- the headings can be exchanged back
    rintro _ ⟨n, hn, rfl⟩ _ ⟨m, hm, rfl⟩ heq
    rw [← retarget_retarget v' hn, ← retarget_retarget v' hm, heq]
  · rintro _ ⟨_, hn, rfl⟩
    obtain ⟨m, hm, rfl⟩ := List.mem_map.mp hn
    exact ⟨m.id, ⟨m, hm, rfl⟩, rfl⟩

namespace Script

variable {v v' : Vocabulary} {script other : Script} {play play' : Play}

/-- **Other headings give the same play under other ids.** One script is performed if the other is.
Then the plays are the same but for the ids and the labels of scenes, in which the headings are
exchanged, and no two ids become one. -/
theorem perform_headings (hv : v.SameMarks v') (h : script.SameHeaded v v' other) :
    ((∃ play, (script.perform v).outcome = .ok play) ↔
      ∃ play, (other.perform v').outcome = .ok play) ∧
    ∀ play play', (script.perform v).outcome = .ok play → (other.perform v').outcome = .ok play' →
      play' = { play with
        graph := play.graph.renamed (v.retarget v') (v.retargetLabel v') } ∧
      Set.BijOn (v.retarget v') play.graph.ids play'.graph.ids ∧
      (∀ number, v.retarget v' (v.sceneId 1 number) = v'.sceneId 1 number) ∧
      (∀ number name, v.retarget v' (localId (v.sceneId 1 number) name)
        = localId (v'.sceneId 1 number) name) ∧
      ∀ number, v.retargetLabel v' (v.sceneLabel number) = v'.sceneLabel number := by
  simp only [perform_eq_ok_iff, h.hasRoster_iff, h.staged_eq hv, h.writtenRoster_eq hv]
  refine ⟨?_, ?_⟩
  · constructor
    · rintro ⟨-, hroster, scenes, hscenes, hus, -⟩
      exact ⟨_, hroster, scenes, hscenes, hus, rfl⟩
    · rintro ⟨-, hroster, scenes, hscenes, hus, -⟩
      exact ⟨_, hroster, scenes, hscenes, hus, rfl⟩
  · rintro play play' ⟨-, scenes, hscenes, -, rfl⟩ ⟨-, scenes', hscenes', -, rfl⟩
    obtain rfl : scenes = scenes' := Option.some_inj.mp (hscenes.symm.trans hscenes')
    refine ⟨?_, Vocabulary.bijOn_retarget v v' scenes, Vocabulary.retarget_sceneId v v',
      Vocabulary.retarget_localId v v', Vocabulary.retargetLabel_sceneLabel v v'⟩
    rw [h.toPlay_eq, ← Vocabulary.renamed_outline v v' scenes]
    rfl

/-- The same as `masquerade` under the usual headings. -/
def unmasked : Script where
  characters := [.single "2" "A number. [Number]", .single "" "Nobody.", .single "1.1.1" "A place."]
  plot :=
    [.single "ACT 1"
      [.scene (.single "SCENE 1"
        [.direction "[A knock.]", .speech (.single "2" ["(To 1.1.1)Who is there?"]),
          .speech (.single "" ["(To 2, 1.1.1)Nobody."])]),
        .scene (.single "SCENE 2" [.speech (.single "1.1.1" ["[Opens.]"])])]]

theorem perform_headings_masquerade : ∃ play play', (masquerade.perform numerals).outcome = .ok play ∧
    (unmasked.perform {}).outcome = .ok play' ∧
    play'.graph.nodes.map (·.id) = ["ACT 1.SCENE 1", "ACT 1.SCENE 1.1", "ACT 1.SCENE 1.2",
      "ACT 1.SCENE 1.1.1.1", "ACT 1.SCENE 1.", "ACT 1.SCENE 2", "ACT 1.SCENE 2.1.1.1",
      "ACT 1.SCENE 2.1"] ∧
    play' = { play with
      graph := play.graph.renamed (numerals.retarget {}) (numerals.retargetLabel {}) } ∧
    Set.BijOn (numerals.retarget {}) play.graph.ids play'.graph.ids := by
  have hmarks : numerals.SameMarks {} := rfl
  have hscripts : masquerade.SameHeaded numerals {} unmasked :=
    ⟨rfl, rfl, rfl, rfl, _, _, rfl, rfl,
      .cons (.scene rfl) (.cons (.scene rfl) (.nil 3))⟩
  have hplay : (masquerade.perform numerals).outcome = .ok _ := rfl
  have hplay' : (unmasked.perform {}).outcome = .ok _ := rfl
  obtain ⟨hrenamed, hids, -⟩ := (perform_headings hmarks hscripts).2 _ _ hplay hplay'
  exact ⟨_, _, hplay, hplay', rfl, hrenamed, hids⟩

end Script

end Dramaturgy
