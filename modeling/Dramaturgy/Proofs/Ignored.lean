import Dramaturgy.Proofs.Action
import Dramaturgy.Proofs.Contents

/-!
# What does not count

Much of what may be written in a script is never looked at: the elements of the plot after the
first one, its other acts, the keys of a scene that are not the label that is due, and all that
comes after the word that ends a scene or the act. `Script.SamePerformed` relates two scripts that are the
same but for that. `perform_congr` says that they have the same outcome, be it a play or a fault.

The relation goes down from the plot to the remarks, and at each level the actions are shown to be
the same ones.
-/

namespace Dramaturgy

open Cue

/-! ## Scripts that are the same where it counts -/

namespace Vocabulary

/-- Two entries of an act, in which the scene with the given number is due, say the same. -/
inductive SameEntry (v : Vocabulary) (number : Nat) : SceneEntry → SceneEntry → Prop where
  | marker (text : String) : SameEntry v number (.marker text) (.marker text)
  | absent {scene other : Record (List Remark)} :
    scene.get? (v.sceneLabel number) = none → other.get? (v.sceneLabel number) = none →
    SameEntry v number (.scene scene) (.scene other)
  | present {scene other : Record (List Remark)} {remarks remarks' : List Remark} :
    scene.get? (v.sceneLabel number) = some remarks →
    other.get? (v.sceneLabel number) = some remarks' → v.performed remarks = v.performed remarks' →
    SameEntry v number (.scene scene) (.scene other)

/-- Entries say the same, one by one. The first ones have the given number. -/
inductive SameEntries (v : Vocabulary) : Nat → List SceneEntry → List SceneEntry → Prop where
  | nil (number : Nat) : SameEntries v number [] []
  | cons {number : Nat} {entry other : SceneEntry} {entries others : List SceneEntry} :
    v.SameEntry number entry other → SameEntries v (number + 1) entries others →
    SameEntries v number (entry :: entries) (other :: others)

/-- The first elements of two plots have the same act, up to the word that ends it. -/
inductive SamePlot (v : Vocabulary) :
    List (Record (List SceneEntry)) → List (Record (List SceneEntry)) → Prop where
  | empty : SamePlot v [] []
  | absent {acts other : Record (List SceneEntry)} {further further' : List _} :
    acts.get? (v.actLabel 1) = none → other.get? (v.actLabel 1) = none →
    SamePlot v (acts :: further) (other :: further')
  | present {acts other : Record (List SceneEntry)} {further further' : List _}
    {entries entries' : List SceneEntry} :
    acts.get? (v.actLabel 1) = some entries → other.get? (v.actLabel 1) = some entries' →
    v.SameEntries 1 (v.due entries) (v.due entries') →
    SamePlot v (acts :: further) (other :: further')

end Vocabulary

/-- Two scripts are the same but for what is never looked at. -/
structure Script.SamePerformed (v : Vocabulary) (script other : Script) : Prop where
  title : script.title = other.title
  author : script.author = other.author
  synopsis : script.synopsis = other.synopsis
  characters : script.characters = other.characters
  plot : v.SamePlot script.plot other.plot

/-! ## The same actions -/

namespace Vocabulary

variable {v : Vocabulary} {roster : Roster}

/-- What comes after the end of a scene holds no actions. -/
theorem actions_remarkCues_performed : ∀ (remarks : List Remark) (speaker : Option String),
    actions (v.remarkCues roster speaker (v.performed remarks))
      = actions (v.remarkCues roster speaker remarks)
  | [], speaker => rfl
  | .direction text :: remarks, speaker => by
    cases hend : v.closesScene (.direction text) with
    | true =>
      rw [performed_of_closes hend, remarkCues_of_closes hend, actions_ite_tell]
      rfl
    | false =>
      rw [performed_cons hend, remarkCues_direction hend, remarkCues_direction hend]
      simp [isAction, actions_remarkCues_performed remarks speaker]
  | .speech record :: remarks, speaker => by
    rw [performed_cons rfl]
    rcases remarkCues_speech_cases v roster record with ⟨fault, hcues⟩ | ⟨_, _, c, -, -, hcues⟩
    · rw [hcues, hcues]
    · rw [hcues, hcues, actions_append, actions_append,
        actions_remarkCues_performed remarks (some c.name)]

/-- What comes after the end of the act holds no actions. -/
theorem actions_actCues_due : ∀ (entries : List SceneEntry) (number : Nat),
    actions (v.actCues roster number (v.due entries))
      = actions (v.actCues roster number entries)
  | [], number => rfl
  | entry :: entries, number => by
    cases hend : v.closesAct entry with
    | true =>
      rw [due_of_closes hend, actCues_of_closes hend, actions_ite_tell]
      rfl
    | false =>
      rw [due_cons hend, actCues_cons hend, actCues_cons hend, actions_append, actions_append,
        actions_actCues_due entries]

theorem SameEntry.closesAct_eq {number : Nat} {entry other : SceneEntry}
    (h : v.SameEntry number entry other) : v.closesAct entry = v.closesAct other := by
  cases h <;> rfl

theorem SameEntry.actions_eq {number : Nat} {entry other : SceneEntry}
    (h : v.SameEntry number entry other) :
    actions (v.sceneCues roster number entry) = actions (v.sceneCues roster number other) := by
  cases h with
  | marker text => rfl
  | absent hget hget' =>
    rw [sceneCues, sceneCues, SceneEntry.remarks, SceneEntry.remarks, hget, hget']
  | @present scene other remarks remarks' hget hget' hremarks =>
    have hsame : actions (v.remarkCues roster none remarks)
        = actions (v.remarkCues roster none remarks') := by
      rw [← actions_remarkCues_performed, hremarks, actions_remarkCues_performed]
    simp [sceneCues, SceneEntry.remarks, hget, hget', isAction, hsame]

theorem SameEntries.actions_eq {number : Nat} {entries others : List SceneEntry}
    (h : v.SameEntries number entries others) :
    actions (v.actCues roster number entries) = actions (v.actCues roster number others) := by
  induction h with
  | nil number => rfl
  | @cons number entry other entries others hentry hentries ih =>
    have hends := hentry.closesAct_eq
    cases hend : v.closesAct entry with
    | true =>
      rw [actCues_of_closes hend, actCues_of_closes (hends ▸ hend), actions_ite_tell,
        actions_ite_tell]
    | false =>
      rw [actCues_cons hend, actCues_cons (hends ▸ hend), actions_append, actions_append,
        hentry.actions_eq, ih]

end Vocabulary

namespace Script

variable {v : Vocabulary} {script other : Script}

/-- Both scripts have an act, or both are without one. -/
theorem SamePerformed.act_cases (h : script.SamePerformed v other) :
    (∃ fault, script.act (v.actLabel 1) = .error fault ∧
      other.act (v.actLabel 1) = .error fault) ∨
    ∃ entries entries', script.act (v.actLabel 1) = .ok entries ∧
      other.act (v.actLabel 1) = .ok entries' ∧
      v.SameEntries 1 (v.due entries) (v.due entries') := by
  have hplot : v.SamePlot script.plot other.plot := h.plot
  unfold act
  generalize script.plot = plot at hplot ⊢
  generalize other.plot = plot' at hplot ⊢
  cases hplot with
  | empty => exact .inl ⟨_, rfl, rfl⟩
  | absent hget hget' =>
    simp only [hget, hget']
    exact .inl ⟨_, rfl, rfl⟩
  | present hget hget' hentries =>
    simp only [hget, hget']
    exact .inr ⟨_, _, rfl, rfl, hentries⟩

theorem SamePerformed.actions_eq (h : script.SamePerformed v other) (roster : Roster) :
    actions (script.cues v roster) = actions (other.cues v roster) := by
  rcases h.act_cases with ⟨fault, hact, hact'⟩ | ⟨entries, entries', hact, hact', hentries⟩
  · rw [actions_cues_of_error hact, actions_cues_of_error hact']
  · rw [actions_cues hact, actions_cues hact', ← Vocabulary.actions_actCues_due entries,
      hentries.actions_eq, Vocabulary.actions_actCues_due]

/-- The errand, and much besides that is never looked at. -/
def clutteredErrand : Script where
  characters := errand.characters
  plot :=
    [{ entries :=
        [("ACT 2", [.marker "INTERMISSION"]),
          ("ACT 1",
            [.scene
              { entries :=
                  [("SCENE 9", [.speech (.single "Carol" ["Hello."])]),
                    ("SCENE 1",
                      [.direction "[Rain.]",
                        .speech (.single "ALICE"
                          ["(To bob[urgent], Alice[aside])Open up.", "[Knocks.]"]),
                        .speech (.single "Bob" ["(To Alice, REX[hush],)Coming."]),
                        .direction "[The door opens.]", .direction "CURTAIN",
                        .speech (.single "Carol" ["(To nobody)Hello."]), .speech .empty])] },
              .scene
                { entries :=
                    [("SCENE 2", [.speech (.single "Bob" []), .speech (.single "Alice" [])]),
                      ("SCENE 3", [])] },
              .scene (.single "SCENE 3" [.direction "[Silence.]"]),
              .marker "CURTAIN", .scene (.single "SCENE 8" []), .marker "INTERMISSION"])] },
      .single "ACT 1" []]

theorem samePerformed_clutteredErrand : errand.SamePerformed {} clutteredErrand where
  title := rfl
  author := rfl
  synopsis := rfl
  characters := rfl
  plot :=
    .present rfl rfl (.cons (.present rfl rfl rfl) (.cons (.present rfl rfl rfl)
      (.cons (.present rfl rfl rfl) (.nil 4))))

/-- **What does not count.** Two scripts that are the same where it counts have the same outcome:
the same play, or the same fault. -/
theorem perform_congr (h : script.SamePerformed v other) :
    (script.perform v).outcome = (other.perform v).outcome := by
  rw [outcome_perform, outcome_perform, roster_congr h.characters]
  congr 1
  funext roster
  have hplay : script.toPlay roster = other.toPlay roster := by
    funext g
    simp only [toPlay, h.title, h.author, h.synopsis]
  rw [h.actions_eq, hplay]

theorem perform_congr_clutteredErrand : errand.SamePerformed {} clutteredErrand ∧
    ∃ play, (errand.perform {}).outcome = .ok play ∧ play.graph = errandGraph ∧
      (clutteredErrand.perform {}).outcome = .ok play :=
  ⟨samePerformed_clutteredErrand, _, perform_errand, rfl,
    (perform_congr samePerformed_clutteredErrand).symm.trans perform_errand⟩

end Script

end Dramaturgy
