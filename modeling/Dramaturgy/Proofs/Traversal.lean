import Dramaturgy.Proofs.Stage
import Mathlib.Data.List.Forall2

/-!
# From cues to events

The cues of a scene are written out before any of them is taken. `Enacts` relates them to the events
they perform, or to nothing if a fault stands among them; `enacts_remarkCues` says that the cues of
some remarks perform what `Vocabulary.stagedScene` reads off the same remarks. Together with the
stage's answer to a single cue this gives its answer to a scene (`Stage.Within.takeAll`) and to an
act (`Stage.Between.takeAll_actCues`): either all is performed, and no name clashes in any scene, or
there is a fault, which lies in the script.
-/

namespace Dramaturgy

open Event

/-! ## Reading in parts -/

section MapM

variable {α β : Type} {f : α → Option β}

theorem mapM_cons_eq (x : α) (xs : List α) :
    (x :: xs).mapM f = (f x).bind fun y => (xs.mapM f).map (y :: ·) := by
  rw [List.mapM_cons]
  cases f x <;> cases xs.mapM f <;> rfl

theorem mapM_append_eq (xs ys : List α) :
    (xs ++ ys).mapM f = (xs.mapM f).bind fun zs => (ys.mapM f).map (zs ++ ·) := by
  rw [List.mapM_append]
  cases xs.mapM f <;> cases ys.mapM f <;> rfl

theorem mapM_eq_some_iff : ∀ {xs : List α} {ys : List β},
    xs.mapM f = some ys ↔ xs.map f = ys.map some
  | [], ys => by cases ys <;> simp
  | x :: xs, [] => by
    rw [mapM_cons_eq]
    cases f x <;> simp
  | x :: xs, y :: ys => by
    rw [mapM_cons_eq, List.map_cons, List.map_cons, List.cons.injEq, ← mapM_eq_some_iff]
    cases f x <;> simp [and_comm]

/-- Elements are read if each of them gives what stands in its place. -/
theorem mapM_eq_some_iff_forall₂ {xs : List α} {ys : List β} :
    xs.mapM f = some ys ↔ List.Forall₂ (fun x y => f x = some y) xs ys := by
  rw [mapM_eq_some_iff, ← List.forall₂_eq_eq_eq, List.forall₂_map_left_iff,
    List.forall₂_map_right_iff]

/-- What is read in one way is read in the same way by whatever reads as much. -/
theorem mapM_eq_some_of_imp {g : α → Option β} (hfg : ∀ x y, f x = some y → g x = some y)
    {xs : List α} {ys : List β} (h : xs.mapM f = some ys) : xs.mapM g = some ys :=
  mapM_eq_some_iff_forall₂.mpr ((mapM_eq_some_iff_forall₂.mp h).imp hfg)

theorem mapM_congr_map {γ : Type} {g : γ → Option β} {xs : List α} {zs : List γ}
    (h : xs.map f = zs.map g) : xs.mapM f = zs.mapM g := by
  have hid := congrArg (List.mapM id) h
  rwa [List.mapM_map, List.mapM_map] at hid

/-- All elements can be read as something of a kind exactly if each of them can. -/
theorem exists_mapM_iff {P : β → Prop} : ∀ {xs : List α},
    (∃ ys, xs.mapM f = some ys ∧ ∀ y ∈ ys, P y) ↔ ∀ x ∈ xs, ∃ y, f x = some y ∧ P y
  | [] => by simp
  | x :: xs => by
    rw [List.forall_mem_cons, ← exists_mapM_iff, mapM_cons_eq]
    cases f x <;> cases xs.mapM f <;> simp

/-- What stands in front of a first part stands in front of both parts. -/
theorem map_cons_bind (y : β) (r r' : Option (List β)) :
    (r.map (y :: ·)).bind (fun zs => r'.map (zs ++ ·))
      = (r.bind fun zs => r'.map (zs ++ ·)).map (y :: ·) := by
  cases r <;> cases r' <;> rfl

end MapM

/-! ## Cues and events -/

/-- Whether a fault lies in a script. The others would be misuse of the stage. -/
def Fault.InScript : Fault → Prop
  | .secondAct => False
  | .danglingEdge _ => False
  | _ => True

/-- Cues, after some events of a scene, perform further events, or else there is a fault among
them. -/
inductive Enacts : List (Event Character) → List Cue → Option (List (Event Character)) → Prop where
  | nil (past : List (Event Character)) : Enacts past [] (some [])
  | tell {past : List (Event Character)} {cues : List Cue} {r : Option (List (Event Character))}
    (note : Note) : Enacts past cues r → Enacts past (.tell note :: cues) r
  | fail {past : List (Event Character)} {fault : Fault} (cues : List Cue) :
    fault.InScript → Enacts past (.fail fault :: cues) none
  | event {past : List (Event Character)} {cue : Cue} {e : Event Character} {cues : List Cue}
    {r : Option (List (Event Character))} :
    cue.Performs past e → Enacts (past ++ [e]) cues r → Enacts past (cue :: cues) (r.map (e :: ·))

namespace Enacts

variable {past : List (Event Character)} {cues cues' : List Cue}
  {r r' : Option (List (Event Character))}

theorem tells (notes : List Note) (h : Enacts past cues r) :
    Enacts past (notes.map .tell ++ cues) r := by
  induction notes with
  | nil => exact h
  | cons note notes ih => exact .tell note ih

/-- Cues after other cues perform what they do after the events of those. -/
theorem append (h : Enacts past cues r)
    (h' : ∀ events, r = some events → Enacts (past ++ events) cues' r') :
    Enacts past (cues ++ cues') (r.bind fun events => r'.map (events ++ ·)) := by
  induction h with
  | nil past => simpa using h' [] rfl
  | tell note h ih => exact .tell note (ih h')
  | fail cues hf => exact .fail _ hf
  | @event past cue e cues r hp h ih =>
    have hrest := ih fun events hr => by
      simpa using h' (e :: events) (by rw [hr, Option.map_some])
    rw [map_cons_bind]
    exact .event hp hrest

end Enacts

/-! ## Characters, speeches and remarks -/

theorem Roster.lookup_eq_ok_iff {r : Roster} {name : String} {c : Character} :
    r.lookup name = .ok c ↔ r.find? name = some c := by
  unfold Roster.lookup
  cases r.find? name <;> simp

theorem Roster.lookup_eq_error {r : Roster} {name : String} {fault : Fault}
    (h : r.lookup name = .error fault) : r.find? name = none ∧ fault.InScript := by
  unfold Roster.lookup at h
  cases hf : r.find? name with
  | some c => rw [hf] at h; cases h
  | none => rw [hf] at h; cases h; exact ⟨rfl, trivial⟩

theorem Record.only_eq_ok {α : Type} {r : Record α} {kind : RecordKind} {entry : String × α}
    (h : r.only kind = .ok entry) : r.entries = [entry] := by
  unfold Record.only Record.only? at h
  split at h
  · next hentry =>
    split at hentry
    · cases hentry; cases h; assumption
    · cases hentry
  · cases h

theorem Record.only_eq_error {α : Type} {r : Record α} {kind : RecordKind} {fault : Fault}
    (h : r.only kind = .error fault) : r.size ≠ 1 ∧ fault.InScript := by
  unfold Record.only Record.only? at h
  split at h
  · cases h
  · next hentry =>
    cases h
    refine ⟨fun hsize => ?_, trivial⟩
    obtain ⟨entry, hentries⟩ := List.length_eq_one_iff.mp hsize
    rw [hentries] at hentry
    cases hentry

theorem SceneEntry.remarks_eq_error {entry : SceneEntry} {label : String} {fault : Fault}
    (h : entry.remarks label = .error fault) : fault.InScript := by
  unfold SceneEntry.remarks at h
  split at h
  · cases h; trivial
  · split at h <;> cases h
    trivial

namespace Vocabulary

variable {v : Vocabulary} {roster : Roster} {remark : Remark} {rest : List Remark}

theorem stagedScene_of_closes (h : v.closesScene remark = true) :
    v.stagedScene roster (remark :: rest) = some [] := by
  simp [stagedScene, sceneEvents, performed_of_closes h]

/-- A scene is read remark by remark. -/
theorem stagedScene_cons (h : v.closesScene remark = false) :
    v.stagedScene roster (remark :: rest) =
      if remark.isSingle then
        ((v.remarkEvents remark).mapM (Event.resolve roster)).bind fun events =>
          (v.stagedScene roster rest).map (events ++ ·)
      else none := by
  unfold stagedScene sceneEvents
  rw [performed_cons h, List.all_cons, List.flatMap_cons, mapM_append_eq]
  cases remark.isSingle with
  | false => rfl
  | true =>
    cases (v.remarkEvents remark).mapM (Event.resolve roster) <;>
      cases (v.performed rest).all (·.isSingle) <;> rfl

/-- An act is read entry by entry. -/
theorem stagedEntries_cons {entry : SceneEntry} {entries : List SceneEntry} {number : Nat}
    (h : v.closesAct entry = false) :
    v.stagedEntries roster number (entry :: entries)
      = (v.stagedEntry roster number entry).bind fun events =>
          (v.stagedEntries roster (number + 1) entries).map (events :: ·) := by
  unfold stagedEntries
  rw [due_cons h, List.zipIdx_cons, mapM_cons_eq]

theorem stagedEntries_of_closes {entry : SceneEntry} {entries : List SceneEntry} {number : Nat}
    (h : v.closesAct entry = true) :
    v.stagedEntries roster number (entry :: entries) = some [] := by
  unfold stagedEntries
  rw [due_of_closes h, List.zipIdx_nil, List.mapM_nil]
  rfl

end Vocabulary

/-! ## The cues of a scene -/

namespace Vocabulary

variable {v : Vocabulary} {roster : Roster} {past : List (Event Character)} {speaker : Character}

/-- The events of a line leave the floor with the speaker. -/
theorem speaker?_of_mem_lineEvents {line : String} {e : Event String}
    (he : e ∈ v.lineEvents line) : e.speaker? = none := by
  unfold lineEvents at he
  split at he
  · rw [List.mem_singleton.mp he]
    rfl
  · obtain ⟨a, -, rfl⟩ := List.mem_map.mp he
    rfl

/-- The events of the lines of a speech leave the floor with the speaker. -/
theorem floor?_append_lines {lines : List String} {events : List (Event Character)}
    (h : (lines.flatMap v.lineEvents).mapM (Event.resolve roster) = some events) :
    floor? (past ++ events) = floor? past := by
  have hnone : events.filterMap (·.speaker?) = [] := by
    refine List.filterMap_eq_nil_iff.mpr fun e he => ?_
    have hmem : some e ∈ (lines.flatMap v.lineEvents).map (Event.resolve roster) := by
      rw [mapM_eq_some_iff.mp h]
      exact List.mem_map_of_mem he
    obtain ⟨w, hw, hres⟩ := List.mem_map.mp hmem
    obtain ⟨line, -, hline⟩ := List.mem_flatMap.mp hw
    have hspeaker := speaker?_of_mem_lineEvents hline
    cases w with
    | direction text => cases hres; rfl
    | speech name => cases hspeaker
    | address name text tags =>
      obtain ⟨c, -, rfl⟩ := Option.map_eq_some_iff.mp hres
      rfl
  simp [floor?, hnone]

/-- The cues of a line of dialogue address one listener after the other. -/
theorem enacts_listeners (text : String) (tags : List String) : ∀ (listeners : List Addressee)
    {past : List (Event Character)}, floor? past = some speaker →
    Enacts past
      (listeners.map fun a =>
        match roster.lookup a.name with
        | .ok listener => Cue.address speaker.name listener text tags
        | .error fault => .fail fault)
      ((listeners.map fun a => Event.address a.name text tags).mapM (Event.resolve roster))
  | [], past, _ => .nil past
  | a :: listeners, past, hf => by
    rw [List.map_cons, List.map_cons, mapM_cons_eq]
    cases hl : roster.lookup a.name with
    | error fault =>
      obtain ⟨hnone, hfault⟩ := Roster.lookup_eq_error hl
      simp only [Event.resolve, hnone]
      exact .fail _ hfault
    | ok c =>
      simp only [Event.resolve, Roster.lookup_eq_ok_iff.mp hl]
      have hfloor : floor? (past ++ [.address c text tags]) = some speaker := by
        rw [floor?_append_singleton]
        exact hf
      exact .event (.address c text tags hf) (enacts_listeners text tags listeners hfloor)

theorem enacts_lineCues (line : String) (hf : floor? past = some speaker) :
    Enacts past (v.lineCues roster speaker.name line)
      ((v.lineEvents line).mapM (Event.resolve roster)) := by
  refine .tells _ ?_
  cases hline : Line.ofText v line with
  | direction text =>
    rw [lineEvents, hline]
    have hp : Cue.Performs past (.direction ((floor? past).map (·.name)) text) (.direction text) :=
      .direction text
    rw [hf, Option.map_some] at hp
    exact .event hp (.nil _)
  | dialogue d =>
    rw [lineEvents_of_dialogue hline]
    exact enacts_listeners d.text d.tags d.listeners hf

theorem enacts_lines : ∀ (lines : List String) {past : List (Event Character)},
    floor? past = some speaker →
    Enacts past (lines.flatMap (v.lineCues roster speaker.name))
      ((lines.flatMap v.lineEvents).mapM (Event.resolve roster))
  | [], past, _ => .nil past
  | line :: lines, past, hf => by
    rw [List.flatMap_cons, List.flatMap_cons, mapM_append_eq]
    refine (enacts_lineCues line hf).append fun events hevents => enacts_lines lines ?_
    have hline : ([line].flatMap v.lineEvents).mapM (Event.resolve roster) = some events := by
      rwa [List.flatMap_singleton]
    rw [floor?_append_lines hline]
    exact hf

/-- The cues of some remarks perform what is read off them. -/
theorem enacts_remarkCues : ∀ (remarks : List Remark) (past : List (Event Character)),
    Enacts past (v.remarkCues roster ((floor? past).map (·.name)) remarks)
      (v.stagedScene roster remarks)
  | [], past => .nil past
  | .direction text :: rest, past => by
    cases hend : v.closesScene (.direction text) with
    | true =>
      rw [remarkCues_of_closes hend, stagedScene_of_closes hend]
      split
      · exact .nil past
      · exact .tell _ (.nil past)
    | false =>
      rw [remarkCues_direction hend, stagedScene_cons hend]
      have hrest := enacts_remarkCues rest (past ++ [.direction (v.directionText text)])
      rw [floor?_append_singleton] at hrest
      exact .tells _ (.event (.direction _) hrest)
  | .speech record :: rest, past => by
    unfold remarkCues
    rw [stagedScene_cons rfl]
    cases ho : record.only .speech with
    | error fault =>
      obtain ⟨hsize, hfault⟩ := Record.only_eq_error ho
      rw [if_neg (by simpa [Remark.isSingle] using hsize)]
      exact .fail _ hfault
    | ok entry =>
      obtain ⟨name, lines⟩ := entry
      have hentries := Record.only_eq_ok ho
      rw [if_pos (by simp [Remark.isSingle, Record.size, hentries])]
      have hevents :
          v.remarkEvents (.speech record) = .speech name :: lines.flatMap v.lineEvents := by
        simp [remarkEvents, hentries]
      rw [hevents, mapM_cons_eq]
      cases hl : roster.lookup name with
      | error fault =>
        obtain ⟨hnone, hfault⟩ := Roster.lookup_eq_error hl
        simp only [Event.resolve, hnone, hl]
        exact .fail _ hfault
      | ok c =>
        have hf : floor? (past ++ [Event.speech c]) = some c := by simp [speaker?]
        simp only [Event.resolve, Roster.lookup_eq_ok_iff.mp hl, hl]
        rw [Option.map_some, Option.bind_some, map_cons_bind]
        refine .event (.speech c) ((enacts_lines lines hf).append fun events hevents => ?_)
        -- after the lines the floor is still with the speaker
        have hrest := enacts_remarkCues rest (past ++ [Event.speech c] ++ events)
        rw [floor?_append_lines hevents, hf] at hrest
        exact hrest

end Vocabulary

/-! ## Taking the cues of a scene and of an act -/

namespace Stage

variable {s : Stage} {v : Vocabulary} {done : List (List (Event Character))}
  {past : List (Event Character)} {cues : List Cue} {r : Option (List (Event Character))}
  {roster : Roster}

/-- Notes that stand in front of other cues are taken all at once. -/
theorem takeAll_tells (cues : List Cue) : ∀ (notes : List Note) (s : Stage),
    s.takeAll (notes.map .tell ++ cues) = (s.tell notes).takeAll cues
  | [], s => by
    rw [tell, List.append_nil]
    rfl
  | note :: notes, s => by
    have hfirst : s.takeAll ((note :: notes).map .tell ++ cues)
        = (s.tell [note]).takeAll (notes.map .tell ++ cues) := rfl
    have hboth : (s.tell [note]).tell notes = s.tell (note :: notes) := by
      simp [tell]
    rw [hfirst, takeAll_tells cues notes, hboth]

/-- Taking notes changes nothing else. -/
theorem Between.tell (h : s.Between v done) (notes : List Note) : (s.tell notes).Between v done :=
  ⟨h.vocabulary, h.act, h.scene, h.graph⟩

theorem Within.tell (h : s.Within v done past) (notes : List Note) :
    (s.tell notes).Within v done past :=
  ⟨h.vocabulary, h.act, h.scene, h.direction, h.graph⟩

/-- A scene is performed if there is no fault among its cues and no name clashes in it. Otherwise
there is a fault, and it lies in the script. -/
theorem Within.takeAll (he : Enacts past cues r) :
    ∀ {s : Stage}, s.Within v done past → Unclashed past →
      (∃ events s', r = some events ∧ Unclashed (past ++ events) ∧
        s.takeAll cues = (.ok (), s') ∧ s'.Within v done (past ++ events)) ∨
      ∃ fault s', (∀ events, r = some events → ¬Unclashed (past ++ events)) ∧
        fault.InScript ∧ s.takeAll cues = (.error fault, s') := by
  induction he with
  | nil past =>
    intro s hs hu
    exact Or.inl ⟨[], s, rfl, by simpa using hu, rfl, by simpa using hs⟩
  | @tell past cues r note _ ih =>
    intro s hs hu
    have htell : s.takeAll (.tell note :: cues) = (s.tell [note]).takeAll cues := rfl
    rw [htell]
    exact ih (hs.tell [note]) hu
  | @fail past fault cues hf =>
    intro s hs hu
    exact Or.inr ⟨fault, s, nofun, hf, rfl⟩
  | @event past cue e cues r hp _ ih =>
    intro s hs hu
    -- the first clash is where the performance ends
    by_cases hue : Unclashed (past ++ [e])
    · obtain ⟨s₁, htake, hs₁⟩ := hs.take_of_unclashed hp hue
      have hstep : s.takeAll (cue :: cues) = s₁.takeAll cues := by
        rw [Stage.takeAll, htake]
      rw [hstep]
      rcases ih hs₁ hue with ⟨events, s', rfl, hall, htakes, hs'⟩ | ⟨fault, s', hclash, hf, htakes⟩
      · rw [List.append_assoc] at hall hs'
        exact Or.inl ⟨e :: events, s', rfl, hall, htakes, hs'⟩
      · refine Or.inr ⟨fault, s', fun events hr => ?_, hf, htakes⟩
        obtain ⟨rest, hrest, rfl⟩ := Option.map_eq_some_iff.mp hr
        have hno := hclash rest hrest
        rwa [List.append_assoc] at hno
    · obtain ⟨id, s', htake⟩ := hs.take_of_clash hp hu hue
      refine Or.inr ⟨.identifierCollision id, s', fun events hr hall => ?_, trivial, ?_⟩
      · obtain ⟨rest, -, rfl⟩ := Option.map_eq_some_iff.mp hr
        rw [List.append_cons] at hall
        exact hue hall.of_append
      · rw [Stage.takeAll, htake]

/-- An entry of the act is performed if it is the scene that is due and that can be performed. -/
theorem Between.takeAll_sceneCues (h : s.Between v done) (roster : Roster) (entry : SceneEntry) :
    (∃ events s', v.stagedEntry roster (done.length + 1) entry = some events ∧ Unclashed events ∧
      s.takeAll (v.sceneCues roster (done.length + 1) entry) = (.ok (), s') ∧
      s'.Between v (done ++ [events])) ∨
    ∃ fault s', (∀ events, v.stagedEntry roster (done.length + 1) entry = some events →
        ¬Unclashed events) ∧ fault.InScript ∧
      s.takeAll (v.sceneCues roster (done.length + 1) entry) = (.error fault, s') := by
  obtain ⟨s₁, htake, hs₁⟩ := h.take_scene
  unfold Vocabulary.sceneCues Vocabulary.stagedEntry
  rw [Stage.takeAll, htake, Vocabulary.sceneRemarks?_eq]
  cases hr : entry.remarks (v.sceneLabel (done.length + 1)) with
  | error fault =>
    refine Or.inr ⟨fault, s₁, fun events h => ?_, SceneEntry.remarks_eq_error hr, rfl⟩
    cases h
  | ok remarks =>
    rcases Within.takeAll (Vocabulary.enacts_remarkCues remarks []) hs₁ unclashed_nil with
      ⟨events, s', hread, hu, htakes, hs'⟩ | ⟨fault, s', hclash, hf, htakes⟩
    · exact Or.inl ⟨events, s', hread, hu, htakes, hs'.between⟩
    · exact Or.inr ⟨fault, s', hclash, hf, htakes⟩

/-- The entries of the act are performed if each of them is. -/
theorem Between.takeAll_actCues (roster : Roster) : ∀ (entries : List SceneEntry) {s : Stage}
    {done : List (List (Event Character))}, s.Between v done →
    (∃ scenes s', v.stagedEntries roster (done.length + 1) entries = some scenes ∧
      (∀ events ∈ scenes, Unclashed events) ∧
      s.takeAll (v.actCues roster (done.length + 1) entries) = (.ok (), s') ∧
      s'.Between v (done ++ scenes)) ∨
    ∃ fault s', (∀ scenes, v.stagedEntries roster (done.length + 1) entries = some scenes →
        ¬∀ events ∈ scenes, Unclashed events) ∧ fault.InScript ∧
      s.takeAll (v.actCues roster (done.length + 1) entries) = (.error fault, s')
  | [], s, done, h => Or.inl ⟨[], s, rfl, by simp, rfl, by simpa using h⟩
  | entry :: rest, s, done, h => by
    cases hend : v.closesAct entry with
    | true =>
      rw [Vocabulary.actCues_of_closes hend, Vocabulary.stagedEntries_of_closes hend]
      refine Or.inl ⟨[], if rest.isEmpty then s else s.tell [.entriesAfterAct rest.length], rfl,
        by simp, ?_, ?_⟩
      · split <;> rfl
      · rw [List.append_nil]
        split
        · exact h
        · exact h.tell _
    | false =>
      -- this entry comes first, and what is left finds the stage between scenes again
      rw [Vocabulary.actCues_cons hend, Vocabulary.stagedEntries_cons hend, Stage.takeAll_append]
      rcases h.takeAll_sceneCues roster entry with
        ⟨events, s₁, hread, hu, htakes, hs₁⟩ | ⟨fault, s', hclash, hf, htakes⟩
      · rw [htakes]
        simp only [hread, Option.bind_some]
        -- the number of the next scene
        have hlen : (done ++ [events]).length = done.length + 1 := by simp
        rcases Between.takeAll_actCues roster rest hs₁ with
          ⟨scenes, s', hrest, hus, htakes', hs'⟩ | ⟨fault, s', hclash, hf, htakes'⟩
        · rw [hlen] at hrest htakes'
          rw [List.append_assoc] at hs'
          refine Or.inl ⟨events :: scenes, s', ?_, ?_, htakes', hs'⟩
          · exact congrArg (Option.map (events :: ·)) hrest
          · exact List.forall_mem_cons.mpr ⟨hu, hus⟩
        · rw [hlen] at hclash htakes'
          refine Or.inr ⟨fault, s', fun scenes hscenes hus => ?_, hf, htakes'⟩
          obtain ⟨rest', hrest, rfl⟩ := Option.map_eq_some_iff.mp hscenes
          exact hclash rest' hrest (List.forall_mem_cons.mp hus).2
      · rw [htakes]
        refine Or.inr ⟨fault, s', fun scenes hscenes hus => ?_, hf, rfl⟩
        obtain ⟨events, hread, hrest⟩ := Option.bind_eq_some_iff.mp hscenes
        obtain ⟨rest', -, rfl⟩ := Option.map_eq_some_iff.mp hrest
        exact hclash events hread (List.forall_mem_cons.mp hus).1

end Stage

end Dramaturgy
