import Dramaturgy.Proofs.Action
import Dramaturgy.Proofs.Performance

/-!
# Plots that are revised

A script may be revised in its remarks: what stands beside the plot is kept, and so are all labels
and markers in it, but each list of remarks gives way to a related one (`Script.Revised`). There are
two ways to see that a revision does not show in the play:

* `Revised.staged_eq`: related remarks tell the same events. They may differ in the names that are
  written, and if there is a fault, then the faults may differ as well;
* `Revised.outcome_eq`: related remarks have cues that stand for each other (`Interchangeable`).
  Then the outcome is the same, be it a play or a fault.
-/

namespace Dramaturgy

open Cue

/-! ## Related plots -/

/-- Two records have the same keys in the same order, and their values are related one by one. -/
def Record.Related {α β : Type} (R : α → β → Prop) (r : Record α) (r' : Record β) : Prop :=
  List.Forall₂ (fun entry other => entry.1 = other.1 ∧ R entry.2 other.2) r.entries r'.entries

/-- Two entries of an act are the same marker, or scenes whose remarks are related. -/
inductive SceneEntry.Related (R : List Remark → List Remark → Prop) :
    SceneEntry → SceneEntry → Prop where
  | marker (text : String) : Related R (.marker text) (.marker text)
  | scene {scene other : Record (List Remark)} :
    scene.Related R other → Related R (.scene scene) (.scene other)

/-- Two scripts are the same but for the remarks in their plots, which are related. -/
structure Script.Revised (R : List Remark → List Remark → Prop) (script other : Script) : Prop where
  title : script.title = other.title
  author : script.author = other.author
  synopsis : script.synopsis = other.synopsis
  characters : script.characters = other.characters
  plot : List.Forall₂ (Record.Related (List.Forall₂ (SceneEntry.Related R)))
    script.plot other.plot

section Related

variable {α β : Type}

/-- Under a key both of two related lists have something, or neither has. -/
theorem lookup_cases {R : α → β → Prop} {xs : List (String × α)} {ys : List (String × β)}
    (h : List.Forall₂ (fun x y => x.1 = y.1 ∧ R x.2 y.2) xs ys) (key : String) :
    (xs.lookup key = none ∧ ys.lookup key = none) ∨
      ∃ a b, xs.lookup key = some a ∧ ys.lookup key = some b ∧ R a b := by
  induction h with
  | nil => exact .inl ⟨rfl, rfl⟩
  | @cons x y xs ys hxy _ ih =>
    rw [List.lookup_cons, List.lookup_cons, hxy.1]
    cases key == y.1 with
    | true => exact .inr ⟨_, _, rfl, rfl, hxy.2⟩
    | false => exact ih

theorem Record.Related.get?_cases {R : α → β → Prop} {r : Record α} {r' : Record β}
    (h : r.Related R r') (key : String) : (r.get? key = none ∧ r'.get? key = none) ∨
      ∃ a b, r.get? key = some a ∧ r'.get? key = some b ∧ R a b :=
  lookup_cases h key

end Related

section Parts

variable {R : List Remark → List Remark → Prop} {script other : Script}
  {entry entry' : SceneEntry}

/-- Both scripts have an act, or both are without one. -/
theorem Script.Revised.act_cases (h : script.Revised R other) (label : String) :
    (∃ fault, script.act label = .error fault ∧ other.act label = .error fault) ∨
    ∃ entries others, script.act label = .ok entries ∧ other.act label = .ok others ∧
      List.Forall₂ (SceneEntry.Related R) entries others := by
  have hplot := h.plot
  unfold Script.act
  generalize script.plot = plot at hplot ⊢
  generalize other.plot = plot' at hplot ⊢
  cases hplot with
  | nil => exact .inl ⟨_, rfl, rfl⟩
  | @cons acts acts' further further' hacts _ =>
    rcases hacts.get?_cases label with ⟨hget, hget'⟩ | ⟨entries, others, hget, hget', hentries⟩
    · simp only [hget, hget']
      exact .inl ⟨_, rfl, rfl⟩
    · simp only [hget, hget']
      exact .inr ⟨_, _, rfl, rfl, hentries⟩

/-- Both entries are the scene that is due, or neither is. -/
theorem SceneEntry.Related.remarks_cases (h : entry.Related R entry') (label : String) :
    (∃ fault, entry.remarks label = .error fault ∧ entry'.remarks label = .error fault) ∨
    ∃ remarks others, entry.remarks label = .ok remarks ∧ entry'.remarks label = .ok others ∧
      R remarks others := by
  cases h with
  | marker text => exact .inl ⟨_, rfl, rfl⟩
  | @scene scene scene' hscene =>
    unfold SceneEntry.remarks
    rcases hscene.get?_cases label with ⟨hget, hget'⟩ | ⟨remarks, others, hget, hget', hremarks⟩
    · simp only [hget, hget']
      exact .inl ⟨_, rfl, rfl⟩
    · simp only [hget, hget']
      exact .inr ⟨_, _, rfl, rfl, hremarks⟩

theorem SceneEntry.Related.closesAct_eq {v : Vocabulary} (h : entry.Related R entry') :
    v.closesAct entry = v.closesAct entry' := by
  cases h <;> rfl

end Parts

/-! ## Remarks that tell the same events -/

namespace Vocabulary

variable {v : Vocabulary} {roster : Roster} {R : List Remark → List Remark → Prop}

theorem stagedEntry_eq_of_related
    (hR : ∀ remarks others, R remarks others →
      v.stagedScene roster remarks = v.stagedScene roster others)
    {entry other : SceneEntry} (h : entry.Related R other) (number : Nat) :
    v.stagedEntry roster number entry = v.stagedEntry roster number other := by
  rw [stagedEntry, stagedEntry, sceneRemarks?_eq, sceneRemarks?_eq]
  rcases h.remarks_cases (v.sceneLabel number) with
    ⟨fault, hr, hr'⟩ | ⟨remarks, others, hr, hr', hremarks⟩
  · rw [hr, hr']
  · rw [hr, hr']
    exact hR _ _ hremarks

theorem stagedEntries_eq_of_related
    (hR : ∀ remarks others, R remarks others →
      v.stagedScene roster remarks = v.stagedScene roster others)
    {entries others : List SceneEntry} (h : List.Forall₂ (SceneEntry.Related R) entries others) :
    ∀ number, v.stagedEntries roster number entries = v.stagedEntries roster number others := by
  induction h with
  | nil => exact fun _ => rfl
  | @cons entry other entries others hentry _ ih =>
    intro number
    have hends := hentry.closesAct_eq (v := v)
    cases hend : v.closesAct entry with
    | true => rw [stagedEntries_of_closes hend, stagedEntries_of_closes (hends ▸ hend)]
    | false =>
      rw [stagedEntries_cons hend, stagedEntries_cons (hends ▸ hend), ih,
        stagedEntry_eq_of_related hR hentry]

end Vocabulary

/-! ## Cues that stand for each other -/

namespace Cue

variable {cues others first first' rest rest' : List Cue}

/-- Cues stand for other ones: on stages that are the same but for their notes, both come to the
same end. -/
def Interchangeable (cues others : List Cue) : Prop :=
  ∀ s s' : Stage, s.Alike s' → Stage.SameStep (s.takeAll cues) (s'.takeAll others)

/-- Cues that hold the same actions stand for each other. -/
theorem interchangeable_of_actions_eq (h : actions cues = actions others) :
    Interchangeable cues others := by
  intro s s' hs
  obtain ⟨houtcome, hstage⟩ := Stage.Alike.takeAll_actions cues hs
  obtain ⟨houtcome', hstage'⟩ := Stage.Alike.takeAll_actions others (Stage.alike_refl s')
  rw [h] at houtcome hstage
  exact ⟨houtcome.trans houtcome'.symm, hstage.trans hstage'.symm⟩

theorem interchangeable_refl (cues : List Cue) : Interchangeable cues cues :=
  interchangeable_of_actions_eq rfl

theorem interchangeable_of_takeAll_eq (h : ∀ s : Stage, s.takeAll cues = s.takeAll others) :
    Interchangeable cues others := by
  intro s s' hs
  rw [← h s']
  exact interchangeable_refl cues s s' hs

theorem Interchangeable.trans {further : List Cue} (h : Interchangeable cues others)
    (h' : Interchangeable others further) : Interchangeable cues further := by
  intro s s' hs
  obtain ⟨houtcome, hstage⟩ := h s s' hs
  obtain ⟨houtcome', hstage'⟩ := h' s' s' (Stage.alike_refl s')
  exact ⟨houtcome.trans houtcome', hstage.trans hstage'⟩

theorem Interchangeable.append (h : Interchangeable first first')
    (h' : Interchangeable rest rest') : Interchangeable (first ++ rest) (first' ++ rest') := by
  intro s s' hs
  rw [Stage.takeAll_append_eq_proceed, Stage.takeAll_append_eq_proceed]
  exact (h _ _ hs).proceed fun _ _ _ hs => h' _ _ hs

theorem Interchangeable.cons (cue : Cue) (h : Interchangeable rest rest') :
    Interchangeable (cue :: rest) (cue :: rest') :=
  (interchangeable_refl [cue]).append h

theorem Interchangeable.result_eq (h : Interchangeable cues others) (s : Stage) :
    s.result cues = s.result others := by
  obtain ⟨houtcome, hstage⟩ := h _ _ (Stage.alike_refl s)
  rw [Stage.result, Stage.result, houtcome, hstage.graph]

end Cue

namespace Vocabulary

variable {v : Vocabulary} {roster : Roster} {R : List Remark → List Remark → Prop}

theorem interchangeable_sceneCues
    (hR : ∀ remarks others, R remarks others →
      Interchangeable (v.remarkCues roster none remarks) (v.remarkCues roster none others))
    {entry other : SceneEntry} (h : entry.Related R other) (number : Nat) :
    Interchangeable (v.sceneCues roster number entry) (v.sceneCues roster number other) := by
  unfold sceneCues
  refine .cons .scene ?_
  rcases h.remarks_cases (v.sceneLabel number) with
    ⟨fault, hr, hr'⟩ | ⟨remarks, others, hr, hr', hremarks⟩
  · rw [hr, hr']
    exact interchangeable_refl _
  · rw [hr, hr']
    exact hR _ _ hremarks

theorem interchangeable_actCues
    (hR : ∀ remarks others, R remarks others →
      Interchangeable (v.remarkCues roster none remarks) (v.remarkCues roster none others))
    {entries others : List SceneEntry} (h : List.Forall₂ (SceneEntry.Related R) entries others) :
    ∀ number,
      Interchangeable (v.actCues roster number entries) (v.actCues roster number others) := by
  induction h with
  | nil => exact fun _ => interchangeable_refl _
  | @cons entry other entries others hentry _ ih =>
    intro number
    have hends : v.closesAct entry = v.closesAct other := hentry.closesAct_eq
    cases hend : v.closesAct entry with
    | true =>
      rw [actCues_of_closes hend, actCues_of_closes (hends ▸ hend)]
      exact interchangeable_of_actions_eq (by rw [actions_ite_tell, actions_ite_tell])
    | false =>
      rw [actCues_cons hend, actCues_cons (hends ▸ hend)]
      exact (interchangeable_sceneCues hR hentry number).append (ih (number + 1))

end Vocabulary

/-! ## Scripts -/

namespace Script.Revised

variable {v : Vocabulary} {script other : Script} {R : List Remark → List Remark → Prop}

theorem toPlay_eq (h : script.Revised R other) (roster : Roster) :
    script.toPlay roster = other.toPlay roster := by
  funext g
  simp only [toPlay, h.title, h.author, h.synopsis]

theorem writtenRoster_eq (h : script.Revised R other) :
    script.writtenRoster v = other.writtenRoster v := by
  rw [writtenRoster, writtenRoster, writtenEntries_congr h.characters]

theorem hasRoster_iff (h : script.Revised R other) : script.HasRoster ↔ other.HasRoster :=
  ⟨fun hr => hr.of_characters h.characters, fun hr => hr.of_characters h.characters.symm⟩

/-- If related remarks tell the same events, so do the scripts. -/
theorem staged_eq
    (hR : ∀ roster remarks others, R remarks others →
      v.stagedScene roster remarks = v.stagedScene roster others)
    (h : script.Revised R other) : script.staged v = other.staged v := by
  rw [staged, staged, writtenAct?_eq, writtenAct?_eq, h.writtenRoster_eq]
  rcases h.act_cases (v.actLabel 1) with
    ⟨fault, hact, hact'⟩ | ⟨entries, others, hact, hact', hentries⟩
  · rw [hact, hact']
  · rw [hact, hact']
    exact Vocabulary.stagedEntries_eq_of_related (hR _) hentries 1

/-- If the cues of related remarks stand for each other, the scripts have the same outcome. -/
theorem outcome_eq
    (hR : ∀ roster remarks others, R remarks others →
      Interchangeable (v.remarkCues roster none remarks) (v.remarkCues roster none others))
    (h : script.Revised R other) : (script.perform v).outcome = (other.perform v).outcome := by
  rw [outcome_perform, outcome_perform, roster_congr h.characters]
  congr 1
  funext roster
  rw [h.toPlay_eq]
  congr 1
  rcases h.act_cases (v.actLabel 1) with
    ⟨fault, hact, hact'⟩ | ⟨entries, others, hact, hact', hentries⟩
  · rw [actions_cues_of_error hact, actions_cues_of_error hact']
  · have hcues := (Vocabulary.interchangeable_actCues (hR roster) hentries 1).cons .act
    have haction : ∀ cues, Cue.act :: actions cues = actions (.act :: cues) := by
      simp [isAction]
    rw [actions_cues hact, actions_cues hact', haction, haction, Stage.result_actions,
      Stage.result_actions]
    exact hcues.result_eq _

end Script.Revised

end Dramaturgy
