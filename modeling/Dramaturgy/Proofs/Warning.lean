import Dramaturgy.Proofs.Marker
import Dramaturgy.Proofs.Notes

/-!
# Every warning has its reason

What a performance warns of can be read off the script: text whose marks do not fit together, and
text that nobody will hear. `Script.defects` lists such places in the order in which a performance
comes to them. It asks of each text what it looks like, and does not follow the reading of it.
`warnings_of_perform` says that the warnings are those and no others.

The warnings stand among the cues, so that the stage has no say in them. Cues that are all taken
hold no fault, which is why none of the places in them is passed over (`told_remarkCues`,
`told_actCues`).
-/

namespace Dramaturgy

open Text

/-- What stands after the first element that ends a list. -/
def following {α : Type} (ends : α → Bool) (xs : List α) : List α :=
  (xs.dropWhile (!ends ·)).tail

section Following

variable {α : Type} {ends : α → Bool} {x : α} {xs : List α}

theorem following_of_ends (h : ends x = true) : following ends (x :: xs) = xs := by
  rw [following, List.dropWhile_cons_of_neg (by simp [h])]
  rfl

theorem following_of_not_ends (h : ends x = false) :
    following ends (x :: xs) = following ends xs := by
  rw [following, List.dropWhile_cons_of_pos (by simp [h]), following]

end Following

/-! ## Defects -/

namespace Vocabulary

/-- The tags in a roster value are opened and never closed. -/
def entryDefects (v : Vocabulary) (name value : String) : List Note :=
  if v.Unclosed (trimmed value) then [.unclosedTags name] else []

/-- A direction is not in brackets. -/
def directionDefects (v : Vocabulary) (text : String) : List Note :=
  if v.Encloses text then [] else [.bareDirection text]

/-- The tag in a token of an address is opened and never closed. -/
def tokenDefects (v : Vocabulary) (token : String) : List Note :=
  if v.Unclosed token then [.unclosedAddressee token] else []

/-- A line without an address is a direction that is not in brackets, or an address is never closed,
or a tag in one is not. -/
def lineDefects (v : Vocabulary) (line : String) : List Note :=
  (if v.OpensAddress line then [] else v.directionDefects line) ++
    (if v.UnclosedAddress line then [.unclosedAddress line] else []) ++
    (v.addressTokens line).flatMap v.tokenDefects

/-- The defects of a remark: those of a direction, or those of the lines of a speech. -/
def remarkDefects (v : Vocabulary) : Remark → List Note
  | .direction text => v.directionDefects text
  | .speech record => record.entries.flatMap fun (_, lines) => lines.flatMap v.lineDefects

/-- The defects of a scene: those of what is performed, and remarks that follow its end. -/
def sceneDefects (v : Vocabulary) (remarks : List Remark) : List Note :=
  (v.performed remarks).flatMap v.remarkDefects ++
    if following v.closesScene remarks = [] then []
    else [.remarksAfterScene (following v.closesScene remarks).length]

/-- The defects of an entry of the act, which has to be the scene with the given number. -/
def sceneEntryDefects (v : Vocabulary) (number : Nat) (entry : SceneEntry) : List Note :=
  match v.sceneRemarks? number entry with
  | none => []
  | some remarks => v.sceneDefects remarks

/-- The defects of the act, the first entry of which has the given number: those of what is
performed, and entries that follow its end. -/
def actDefects (v : Vocabulary) (number : Nat) (entries : List SceneEntry) : List Note :=
  (((v.due entries).zipIdx number).flatMap fun (entry, i) => v.sceneEntryDefects i entry) ++
    if following v.closesAct entries = [] then []
    else [.entriesAfterAct (following v.closesAct entries).length]

end Vocabulary

namespace Script

/-- The plot holds more than the one act that is performed. -/
def HasFurtherActs (script : Script) : Prop :=
  1 < script.plot.length ∨ ∃ acts ∈ script.plot.head?, 1 < acts.size

instance (script : Script) : Decidable script.HasFurtherActs :=
  inferInstanceAs (Decidable (_ ∨ _))

/-- The defects of a script, in the order in which a performance comes to them. -/
def defects (v : Vocabulary) (script : Script) : List Note :=
  (script.writtenEntries.flatMap fun (name, value) => v.entryDefects name value) ++
    (if script.HasFurtherActs then [.furtherActs (v.actLabel 1)] else []) ++
    match script.writtenAct? v with
    | none => []
    | some entries => v.actDefects 1 entries

end Script

/-! ## What there is to tell -/

namespace Vocabulary

variable {v : Vocabulary}

theorem entryNotes_eq (name value : String) :
    Character.entryNotes v name value = v.entryDefects name value := by
  unfold Character.entryNotes entryDefects
  split
  · next text h => rw [if_pos (bracketed_eq_unclosed_iff.mp h).2]
  · next h => rw [if_neg fun hu => h _ (bracketed_eq_unclosed_iff.mpr ⟨rfl, hu⟩)]

theorem tokenNotes_eq (token : String) : Addressee.tokenNotes v token = v.tokenDefects token := by
  unfold Addressee.tokenNotes tokenDefects
  split
  · next text h =>
    obtain ⟨rfl, hu⟩ := bracketed_eq_unclosed_iff.mp h
    rw [if_pos hu]
  · next h => rw [if_neg fun hu => h _ (bracketed_eq_unclosed_iff.mpr ⟨rfl, hu⟩)]

theorem directionNotes_eq (text : String) : v.directionNotes text = v.directionDefects text := by
  unfold directionNotes directionDefects
  cases h : v.enclosed? text with
  | none => rw [if_neg (enclosed?_eq_none_iff.mp h)]
  | some inner => rw [if_pos ⟨inner, enclosed?_eq_some_iff.mp h⟩]

theorem lineNotes_eq (line : String) : Line.notes v line = v.lineDefects line := by
  have htokens : Addressee.tokenNotes v = v.tokenDefects := funext tokenNotes_eq
  simp only [Line.notes, lineDefects, opensAddress_iff, unclosedAddress_iff, addressTokens_eq,
    ← directionNotes_eq, htokens]
  cases v.lineForm line <;> simp

end Vocabulary

/-! ## Cues without a fault among them -/

/-- Cues that are all taken hold no fault. -/
theorem Stage.fail_notMem_of_takeAll {fault : Fault} : ∀ {cues : List Cue} {s s' : Stage},
    s.takeAll cues = (.ok (), s') → .fail fault ∉ cues
  | [], _, _, _ => List.not_mem_nil
  | cue :: cues, s, s', h => by
    rw [takeAll_cons_eq_proceed] at h
    obtain ⟨⟨⟩, s₁, htake, hrest⟩ := proceed_eq_ok h
    rintro (_ | ⟨_, hmem⟩)
    · cases htake
    · exact fail_notMem_of_takeAll hrest hmem

namespace Vocabulary

variable {v : Vocabulary} {roster : Roster}

theorem sceneDefects_of_closes {remark : Remark} {rest : List Remark}
    (h : v.closesScene remark = true) : v.sceneDefects (remark :: rest)
      = if rest = [] then [] else [.remarksAfterScene rest.length] := by
  rw [sceneDefects, performed_of_closes h, following_of_ends h, List.flatMap_nil, List.nil_append]

theorem sceneDefects_cons {remark : Remark} {rest : List Remark}
    (h : v.closesScene remark = false) :
    v.sceneDefects (remark :: rest) = v.remarkDefects remark ++ v.sceneDefects rest := by
  rw [sceneDefects, sceneDefects, performed_cons h, following_of_not_ends h, List.flatMap_cons,
    List.append_assoc]

theorem actDefects_of_closes {entry : SceneEntry} {rest : List SceneEntry} {number : Nat}
    (h : v.closesAct entry = true) : v.actDefects number (entry :: rest)
      = if rest = [] then [] else [.entriesAfterAct rest.length] := by
  rw [actDefects, due_of_closes h, following_of_ends h, List.zipIdx_nil, List.flatMap_nil,
    List.nil_append]

theorem actDefects_cons {entry : SceneEntry} {rest : List SceneEntry} {number : Nat}
    (h : v.closesAct entry = false) : v.actDefects number (entry :: rest)
      = v.sceneEntryDefects number entry ++ v.actDefects (number + 1) rest := by
  rw [actDefects, actDefects, due_cons h, following_of_not_ends h, List.zipIdx_cons,
    List.flatMap_cons, List.append_assoc]

/-- The cues of some remarks tell of their defects. -/
theorem told_remarkCues : ∀ (remarks : List Remark) (speaker : Option String),
    (∀ fault, .fail fault ∉ v.remarkCues roster speaker remarks) →
    Cue.told (v.remarkCues roster speaker remarks) = v.sceneDefects remarks
  | [], speaker, _ => rfl
  | .direction text :: rest, speaker, h => by
    cases hend : v.closesScene (.direction text) with
    | true =>
      rw [remarkCues_of_closes hend, Cue.told_ite_tell, sceneDefects_of_closes hend]
      simp only [List.isEmpty_iff]
    | false =>
      rw [remarkCues_direction hend] at h ⊢
      have hrest : ∀ fault, .fail fault ∉ v.remarkCues roster speaker rest :=
        fun fault hmem => h fault (by simp [hmem])
      rw [Cue.told_append, Cue.told_map_tell, Cue.told_cons, told_remarkCues rest speaker hrest,
        directionNotes_eq, sceneDefects_cons hend]
      rfl
  | .speech record :: rest, speaker, h => by
    rcases remarkCues_speech_cases v roster record with
      ⟨fault, hcues⟩ | ⟨name, lines, c, honly, -, hcues⟩
    · rw [hcues] at h
      exact absurd (List.mem_singleton.mpr rfl) (h fault)
    · rw [hcues] at h ⊢
      have hrest : ∀ fault, .fail fault ∉ v.remarkCues roster (some c.name) rest :=
        fun fault hmem => h fault (by simp [hmem])
      have hspeech : v.remarkDefects (.speech record) = lines.flatMap v.lineDefects := by
        simp [remarkDefects, Record.only_eq_ok honly]
      have hlines : Cue.told (lines.flatMap (v.lineCues roster c.name))
          = lines.flatMap v.lineDefects := by
        rw [Cue.told_flatMap]
        exact List.flatMap_congr fun line _ => (told_lineCues c.name line).trans (lineNotes_eq line)
      rw [Cue.told_append, Cue.told_cons, hlines, told_remarkCues rest _ hrest,
        sceneDefects_cons rfl, hspeech]
      rfl

/-- The cues of some entries of the act tell of their defects. -/
theorem told_actCues : ∀ (entries : List SceneEntry) (number : Nat),
    (∀ fault, .fail fault ∉ v.actCues roster number entries) →
    Cue.told (v.actCues roster number entries) = v.actDefects number entries
  | [], number, _ => rfl
  | entry :: rest, number, h => by
    cases hend : v.closesAct entry with
    | true =>
      rw [actCues_of_closes hend, Cue.told_ite_tell, actDefects_of_closes hend]
      simp only [List.isEmpty_iff]
    | false =>
      rw [actCues_cons hend] at h ⊢
      have hrest : ∀ fault, .fail fault ∉ v.actCues roster (number + 1) rest :=
        fun fault hmem => h fault (List.mem_append_right _ hmem)
      have hscene : Cue.told (v.sceneCues roster number entry)
          = v.sceneEntryDefects number entry := by
        unfold sceneCues sceneEntryDefects at *
        rw [sceneRemarks?_eq]
        cases hr : entry.remarks (v.sceneLabel number) with
        | error fault =>
          rw [hr] at h
          exact absurd (by simp) (h fault)
        | ok remarks =>
          rw [hr] at h
          exact told_remarkCues remarks none fun fault hmem => h fault (by simp [hmem])
      rw [Cue.told_append, hscene, told_actCues rest _ hrest, actDefects_cons hend]

end Vocabulary

/-! ## Plays -/

namespace Script

variable {v : Vocabulary} {script : Script} {play : Play}

theorem actNotes_eq (v : Vocabulary) (script : Script) : script.actNotes (v.actLabel 1)
    = if script.HasFurtherActs then [.furtherActs (v.actLabel 1)] else [] := by
  obtain ⟨title, author, synopsis, characters, plot⟩ := script
  cases plot with
  | nil => simp [actNotes, HasFurtherActs]
  | cons acts rest => cases rest <;> simp [actNotes, HasFurtherActs]

theorem rosterNotes_eq (v : Vocabulary) (script : Script) : script.rosterNotes v
    = script.writtenEntries.flatMap fun (name, value) => v.entryDefects name value :=
  List.flatMap_congr fun _ _ => Vocabulary.entryNotes_eq _ _

/-- The cues of a script tell of the defects of its plot. -/
theorem told_cues {roster : Roster} (h : ∀ fault, .fail fault ∉ script.cues v roster) :
    Cue.told (script.cues v roster)
      = (if script.HasFurtherActs then [.furtherActs (v.actLabel 1)] else []) ++
        match script.writtenAct? v with
        | none => []
        | some entries => v.actDefects 1 entries := by
  unfold cues at h ⊢
  rw [writtenAct?_eq]
  cases ha : script.act (v.actLabel 1) with
  | error fault =>
    rw [ha] at h
    exact absurd (by simp) (h fault)
  | ok entries =>
    rw [ha] at h
    have hact := Vocabulary.told_actCues entries 1 fun fault hmem =>
      h fault (List.mem_append_right _ hmem)
    simp only [Cue.told_append, Cue.told_cons, Cue.told_map_tell, hact, actNotes_eq]
    rfl

/-- **The warnings of a performance are the defects of the script**, one for each, in their order. -/
theorem warnings_of_perform (h : (script.perform v).outcome = .ok play) :
    Note.warnings (script.perform v).notes = script.defects v := by
  obtain ⟨s, htakes, -, hnotes⟩ := notes_perform h
  have hplot : Note.warnings s.notes = Cue.told (script.cues v (script.writtenRoster v)) := by
    rw [Stage.warnings_takeAll htakes,
      Note.warnings_eq_self fun _ => severity_of_mem_told_cues]
    rfl
  have hsound : ∀ fault, .fail fault ∉ script.cues v (script.writtenRoster v) :=
    fun _ => Stage.fail_notMem_of_takeAll htakes
  rw [hnotes, Note.warnings_append, Note.warnings_eq_self fun _ => severity_of_mem_rosterNotes,
    hplot, told_cues hsound, rosterNotes_eq, defects, List.append_assoc]

/-- A script with a defect of every sort. The tag of the clerk is taken for a part of his name. -/
def blotted : Script where
  characters := [.single "Alice" "A detective. [User", .single "Bob[urgent" "A clerk."]
  plot :=
    [.single "ACT 1"
      [.scene (.single "SCENE 1"
        [.direction "Rain.",
          .speech (.single "Alice" ["(To Bob[urgent,)Open up.", "Knocks.", "(To Bob[urgent"]),
          .direction "CURTAIN", .direction "Thunder."]),
        .marker "CURTAIN", .marker "Fin.", .marker "Fin."],
      .single "ACT 2" []]

theorem warnings_of_perform_blotted : ∃ play, (blotted.perform {}).outcome = .ok play ∧
    blotted.defects {} = [.unclosedTags "Alice", .furtherActs "ACT 1", .bareDirection "Rain.",
      .unclosedAddressee "Bob[urgent", .bareDirection "Knocks.", .unclosedAddress "(To Bob[urgent",
      .remarksAfterScene 1, .entriesAfterAct 2] ∧
    Note.warnings (blotted.perform {}).notes = blotted.defects {} := by
  have h : (blotted.perform {}).outcome = .ok _ := rfl
  exact ⟨_, h, rfl, warnings_of_perform h⟩

end Script

end Dramaturgy
