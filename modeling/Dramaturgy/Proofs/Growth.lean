import Dramaturgy.Proofs.Action

/-!
# Scripts that go on

A script may be continued at its end: in the speech that ends the last scene, after that speech,
and with further scenes. `Script.ContinuedBy` says that one script continues another one like this.
What has been performed stays as it is then (`perform_continued`): the graph of the script is the
beginning of the graph of its continuation, and a fault in the script is the fault of its
continuation, whatever comes later.

The actions of a script are the first ones of its continuation (`actions_cues_of_continued`). This
holds of scripts with faults too, for the cues of a scene end with the first fault among its
remarks.
-/

namespace Dramaturgy

open Cue

/-! ## Continuations -/

/-- Remarks that go on where others end: after the last one, or within it if it is a speech. -/
inductive Remark.Continued : List Remark → List Remark → Prop where
  | after (remarks further : List Remark) : Continued remarks (remarks ++ further)
  | within (remarks : List Remark) (name : String) (lines more : List String)
    (further : List Remark) :
    Continued (remarks ++ [.speech (.single name lines)])
      (remarks ++ .speech (.single name (lines ++ more)) :: further)

/-- Entries of an act that go on where others end: after the last one, or within the last scene,
which has to be the one that is due. Behind that scene there may be words that end the act. -/
inductive Vocabulary.Continued (v : Vocabulary) : List SceneEntry → List SceneEntry → Prop where
  | after (entries further : List SceneEntry) : Continued v entries (entries ++ further)
  | within {scene longer : Record (List Remark)} {remarks remarks' : List Remark}
    (entries ends further : List SceneEntry) :
    scene.get? (v.sceneLabel (entries.length + 1)) = some remarks →
    longer.get? (v.sceneLabel (entries.length + 1)) = some remarks' →
    Remark.Continued remarks remarks' → (∀ entry ∈ ends, v.closesAct entry = true) →
    Continued v (entries ++ .scene scene :: ends) (entries ++ .scene longer :: (ends ++ further))

/-- A script that goes on where another one ends. All that is not in the act is the same. -/
structure Script.ContinuedBy (v : Vocabulary) (script longer : Script) : Prop where
  title : longer.title = script.title
  author : longer.author = script.author
  synopsis : longer.synopsis = script.synopsis
  characters : longer.characters = script.characters
  act : ∃ entries entries', script.writtenAct? v = some entries ∧
    longer.writtenAct? v = some entries' ∧ v.Continued entries entries'

/-! ## The first actions -/

namespace Vocabulary

variable {v : Vocabulary} {roster : Roster}

/-- What comes after some remarks has its actions after theirs, if they have no fault. -/
theorem actions_remarkCues_append {rest rest' : List Remark}
    (h : ∀ speaker, actions (v.remarkCues roster speaker rest)
      <+: actions (v.remarkCues roster speaker rest')) :
    ∀ (remarks : List Remark) (speaker : Option String),
      actions (v.remarkCues roster speaker (remarks ++ rest))
        <+: actions (v.remarkCues roster speaker (remarks ++ rest'))
  | [], speaker => h speaker
  | .direction text :: remarks, speaker => by
    rw [List.cons_append, List.cons_append]
    cases hend : v.closesScene (.direction text) with
    | true =>
      rw [remarkCues_of_closes hend, actions_ite_tell]
      exact List.nil_prefix
    | false =>
      rw [remarkCues_direction hend, remarkCues_direction hend, actions_append, actions_append]
      simp only [actions_cons, isAction, if_true]
      rw [List.prefix_append_right_inj, List.cons_prefix_cons]
      exact ⟨rfl, actions_remarkCues_append h remarks speaker⟩
  | .speech record :: remarks, speaker => by
    rw [List.cons_append, List.cons_append]
    rcases remarkCues_speech_cases v roster record with ⟨fault, hcues⟩ | ⟨_, _, c, -, -, hcues⟩
    · simp only [hcues, List.prefix_rfl]
    · rw [hcues, hcues, actions_append, actions_append, List.prefix_append_right_inj]
      exact actions_remarkCues_append h remarks (some c.name)

theorem actions_remarkCues_of_continued {remarks remarks' : List Remark}
    (h : Remark.Continued remarks remarks') (speaker : Option String) :
    actions (v.remarkCues roster speaker remarks)
      <+: actions (v.remarkCues roster speaker remarks') := by
  cases h with
  | after remarks further =>
    have happend : actions (v.remarkCues roster speaker (remarks ++ []))
        <+: actions (v.remarkCues roster speaker (remarks ++ further)) := by
      refine actions_remarkCues_append (fun _ => ?_) remarks speaker
      exact List.nil_prefix
    rwa [List.append_nil] at happend
  | within remarks name lines more further =>
    refine actions_remarkCues_append (fun speaker => ?_) remarks speaker
    have honly : ∀ lines : List String,
        (Record.single name lines).only .speech = .ok (name, lines) := fun _ => rfl
    rw [remarkCues, remarkCues, honly, honly]
    cases hl : roster.lookup name with
    | error fault =>
      simp only [hl]
      exact List.prefix_rfl
    | ok c =>
      -- the same speaker takes the floor, and the further lines come after the lines
      simp only [hl, remarkCues, List.append_nil, List.flatMap_append, ← List.cons_append,
        actions_append, List.append_assoc]
      exact List.prefix_append _ _

theorem actions_actCues_append {rest rest' : List SceneEntry} : ∀ (entries : List SceneEntry)
    {number : Nat}, actions (v.actCues roster (number + entries.length) rest)
      <+: actions (v.actCues roster (number + entries.length) rest') →
    actions (v.actCues roster number (entries ++ rest))
      <+: actions (v.actCues roster number (entries ++ rest'))
  | [], number, h => h
  | entry :: entries, number, h => by
    rw [List.cons_append, List.cons_append]
    cases hend : v.closesAct entry with
    | true =>
      rw [actCues_of_closes hend, actions_ite_tell]
      exact List.nil_prefix
    | false =>
      rw [actCues_cons hend, actCues_cons hend, actions_append, actions_append,
        List.prefix_append_right_inj]
      refine actions_actCues_append entries ?_
      rwa [List.length_cons, Nat.add_comm entries.length, ← Nat.add_assoc] at h

/-- Words that end the act are no actions. -/
theorem actions_actCues_of_ends {ends : List SceneEntry} {number : Nat}
    (h : ∀ entry ∈ ends, v.closesAct entry = true) :
    actions (v.actCues roster number ends) = [] := by
  cases ends with
  | nil => rfl
  | cons entry rest =>
    rw [actCues_of_closes (h entry (by simp)), actions_ite_tell]

theorem actions_actCues_of_continued {entries entries' : List SceneEntry}
    (h : v.Continued entries entries') :
    actions (v.actCues roster 1 entries) <+: actions (v.actCues roster 1 entries') := by
  cases h with
  | after entries further =>
    have happend : actions (v.actCues roster 1 (entries ++ []))
        <+: actions (v.actCues roster 1 (entries ++ further)) :=
      actions_actCues_append entries List.nil_prefix
    rwa [List.append_nil] at happend
  | @within scene longer remarks remarks' entries ends further hget hget' hremarks hends =>
    refine actions_actCues_append entries ?_
    rw [Nat.add_comm 1]
    rw [actCues_cons rfl, actCues_cons rfl, actions_append, actions_append,
      actions_actCues_of_ends hends, List.append_nil, sceneCues, sceneCues, SceneEntry.remarks,
      SceneEntry.remarks, hget, hget']
    refine List.IsPrefix.trans ?_ (List.prefix_append _ _)
    simp only [actions_cons, isAction, if_true, List.cons_prefix_cons, true_and]
    exact actions_remarkCues_of_continued hremarks none

end Vocabulary

namespace Script

variable {v : Vocabulary} {script longer : Script}

theorem actions_cues_of_continued (h : script.ContinuedBy v longer) (roster : Roster) :
    actions (script.cues v roster) <+: actions (longer.cues v roster) := by
  obtain ⟨entries, entries', hact, hact', hentries⟩ := h.act
  rw [actions_cues (act_eq_ok_iff.mpr hact), actions_cues (act_eq_ok_iff.mpr hact'),
    List.cons_prefix_cons]
  exact ⟨rfl, Vocabulary.actions_actCues_of_continued hentries⟩

/-- A scene in which Alice knocks at somebody's door. -/
def knock (listener : String) : Script where
  characters := [.single "Alice" "A detective. [User]", .single "Bob" "A clerk."]
  plot := [.single "ACT 1" [.scene (.single "SCENE 1"
    [.direction "[Rain.]", .speech (.single "Alice" ["(To " ++ listener ++ ")Open up."])])]]

/-- The same scene, in which Alice goes on, Bob answers, and the scene is not the last one. -/
def visit (listener : String) : Script where
  characters := [.single "Alice" "A detective. [User]", .single "Bob" "A clerk."]
  plot := [.single "ACT 1"
    [.scene (.single "SCENE 1"
      [.direction "[Rain.]",
        .speech (.single "Alice" ["(To " ++ listener ++ ")Open up.", "[Knocks again.]"]),
        .speech (.single "Bob" ["(To Alice[urgent])Coming."]), .direction "CURTAIN"]),
      .scene (.single "SCENE 2" [.speech (.single "Bob" []), .speech (.single "Alice" [])])]]

theorem knock_continuedBy_visit (listener : String) :
    (knock listener).ContinuedBy {} (visit listener) where
  title := rfl
  author := rfl
  synopsis := rfl
  characters := rfl
  act :=
    ⟨_, _, rfl, rfl, .within [] [] _ rfl rfl
      (.within [_] "Alice" [_] ["[Knocks again.]"] _) (by simp)⟩

/-- **Scripts that go on.** If a script has a fault, then its continuation has the same one. If both
can be performed, the nodes and the edges of the script are the first ones of its continuation. -/
theorem perform_continued (h : script.ContinuedBy v longer) :
    (∀ fault, (script.perform v).outcome = .error fault →
      (longer.perform v).outcome = .error fault) ∧
    ∀ play play', (script.perform v).outcome = .ok play → (longer.perform v).outcome = .ok play' →
      play.graph.nodes <+: play'.graph.nodes ∧ play.graph.edges <+: play'.graph.edges := by
  have hroster_eq : longer.roster v = script.roster v := roster_congr h.characters
  constructor
  · intro fault hfault
    rcases perform_eq_error_iff_result.mp hfault with hroster | ⟨roster, hroster, hresult⟩
    · exact perform_eq_error_iff_result.mpr (.inl (hroster_eq ▸ hroster))
    · obtain ⟨rest, hrest⟩ := actions_cues_of_continued h roster
      refine perform_eq_error_iff_result.mpr (.inr ⟨roster, hroster_eq ▸ hroster, ?_⟩)
      rw [← hrest]
      exact Stage.result_append_of_error hresult
  · intro play play' hplay hplay'
    obtain ⟨roster, g, hroster, hg, rfl⟩ := perform_eq_ok_iff_result.mp hplay
    obtain ⟨roster', g', hroster', hg', rfl⟩ := perform_eq_ok_iff_result.mp hplay'
    rw [hroster_eq, hroster] at hroster'
    cases hroster'
    obtain ⟨rest, hrest⟩ := actions_cues_of_continued h roster
    rw [← hrest] at hg'
    have hgrows : g.Grows g' := Stage.grows_of_result_append hg hg'
    exact ⟨hgrows.nodes, hgrows.edges⟩

theorem perform_continued_visit :
    (∀ listener, (knock listener).ContinuedBy {} (visit listener)) ∧
    (((knock "Carol").perform {}).outcome = .error (.unknownCharacter "Carol") ∧
      ((visit "Carol").perform {}).outcome = .error (.unknownCharacter "Carol")) ∧
    ∃ play play', ((knock "Bob").perform {}).outcome = .ok play ∧
      ((visit "Bob").perform {}).outcome = .ok play' ∧
      play.graph.nodes.map (·.id) = ["ACT 1.SCENE 1", "ACT 1.SCENE 1.1", "ACT 1.SCENE 1.Alice",
        "ACT 1.SCENE 1.Bob"] ∧
      play'.graph.nodes.map (·.id) = play.graph.nodes.map (·.id) ++
        ["ACT 1.SCENE 1.2", "ACT 1.SCENE 2", "ACT 1.SCENE 2.Bob", "ACT 1.SCENE 2.Alice"] ∧
      play'.graph.edges.map (·.target) = play.graph.edges.map (·.target) ++
        ["ACT 1.SCENE 1.2", "ACT 1.SCENE 1.Alice", "ACT 1.SCENE 2.Alice"] ∧
      play.graph.nodes <+: play'.graph.nodes ∧ play.graph.edges <+: play'.graph.edges :=
  ⟨knock_continuedBy_visit,
    ⟨rfl, (perform_continued (knock_continuedBy_visit "Carol")).1 _ rfl⟩,
    _, _, rfl, rfl, rfl, rfl, rfl,
    (perform_continued (knock_continuedBy_visit "Bob")).2 _ _ rfl rfl⟩

end Script

end Dramaturgy
