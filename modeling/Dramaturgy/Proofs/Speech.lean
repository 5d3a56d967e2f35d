import Dramaturgy.Proofs.Independence
import Dramaturgy.Proofs.Marker
import Dramaturgy.Proofs.Revision

/-!
# Where a speech ends

A speech may be cut in two, and a direction at its end may be set apart from it. Neither shows in
the play, nor in the fault if there is one, whatever comes before and after (`perform_splitSpeech`,
`perform_setApart`).

A speech that is cut in two hands the floor to its speaker once more. They are on stage then
(`Stage.HasOnstage`), and nobody leaves it within a scene, so that nothing comes of it. A direction
is read by other rules in a speech than out of it: in a speech it may be an address that is never
closed. `StandsAlone` are the lines for which the rules agree.
-/

namespace Dramaturgy

open Cue Text

/-! ## Remarks in the place of others -/

/-- Some of the remarks give way to others, each in its place, and the rest stays. -/
inductive Remark.Rewritten (R : Remark → List Remark → Prop) :
    List Remark → List Remark → Prop where
  | nil : Rewritten R [] []
  | keep {rest others : List Remark} (remark : Remark) :
    Rewritten R rest others → Rewritten R (remark :: rest) (remark :: others)
  | replace {remark : Remark} {parts rest others : List Remark} :
    R remark parts → Rewritten R rest others → Rewritten R (remark :: rest) (parts ++ others)

namespace Remark.Rewritten

variable {R : Remark → List Remark → Prop} {remark : Remark} {parts : List Remark}

theorem refl : ∀ remarks : List Remark, Rewritten R remarks remarks
  | [] => .nil
  | remark :: rest => .keep remark (refl rest)

/-- One remark may give way, whatever comes before and after it. -/
theorem once (h : R remark parts) (after : List Remark) : ∀ before : List Remark,
    Rewritten R (before ++ remark :: after) (before ++ (parts ++ after))
  | [] => show Rewritten R (remark :: after) (parts ++ after) from .replace h (refl after)
  | other :: before => .keep other (once h after before)

end Remark.Rewritten

namespace Vocabulary

variable {v : Vocabulary} {roster : Roster} {rest others : List Remark}

theorem remarkCues_single {speaker : Option String} {name : String} {lines : List String}
    {c : Character} (h : roster.lookup name = .ok c) :
    v.remarkCues roster speaker (.speech (.single name lines) :: rest)
      = .floor speaker c :: (lines.flatMap (v.lineCues roster c.name) ++
          v.remarkCues roster (some c.name) rest) := by
  simp [remarkCues, Record.only, Record.only?, Record.single, h]

theorem remarkCues_single_of_error {speaker : Option String} {name : String} {lines : List String}
    {fault : Fault} (h : roster.lookup name = .error fault) :
    v.remarkCues roster speaker (.speech (.single name lines) :: rest) = [.fail fault] := by
  simp [remarkCues, Record.only, Record.only?, Record.single, h]

/-- Cues that stand for each other do so after any remark. -/
theorem interchangeable_remarkCues_cons
    (h : ∀ speaker, Interchangeable (v.remarkCues roster speaker rest)
      (v.remarkCues roster speaker others)) (remark : Remark) (speaker : Option String) :
    Interchangeable (v.remarkCues roster speaker (remark :: rest))
      (v.remarkCues roster speaker (remark :: others)) := by
  cases remark with
  | direction text =>
    cases hend : v.closesScene (.direction text) with
    | true =>
      rw [remarkCues_of_closes hend, remarkCues_of_closes hend]
      exact interchangeable_of_actions_eq (by rw [actions_ite_tell, actions_ite_tell])
    | false =>
      rw [remarkCues_direction hend, remarkCues_direction hend]
      exact (interchangeable_refl _).append ((h speaker).cons _)
  | speech record =>
    rcases remarkCues_speech_cases v roster record with ⟨fault, hcues⟩ | ⟨_, _, c, -, -, hcues⟩
    · rw [hcues, hcues]
      exact interchangeable_refl _
    · rw [hcues, hcues]
      exact (interchangeable_refl _).append (h (some c.name))

theorem interchangeable_remarkCues_append
    (h : ∀ speaker, Interchangeable (v.remarkCues roster speaker rest)
      (v.remarkCues roster speaker others)) : ∀ (remarks : List Remark) (speaker : Option String),
    Interchangeable (v.remarkCues roster speaker (remarks ++ rest))
      (v.remarkCues roster speaker (remarks ++ others))
  | [], speaker => h speaker
  | remark :: remarks, speaker =>
    interchangeable_remarkCues_cons (interchangeable_remarkCues_append h remarks) remark speaker

/-- If remarks may give way on their own, then they may do so in many places of a scene. -/
theorem interchangeable_of_rewritten {R : Remark → List Remark → Prop}
    (hR : ∀ remark parts, R remark parts → ∀ rest speaker,
      Interchangeable (v.remarkCues roster speaker (remark :: rest))
        (v.remarkCues roster speaker (parts ++ rest)))
    (h : Remark.Rewritten R rest others) : ∀ speaker,
    Interchangeable (v.remarkCues roster speaker rest) (v.remarkCues roster speaker others) := by
  induction h with
  | nil => exact fun _ => interchangeable_refl _
  | keep remark _ ih => exact interchangeable_remarkCues_cons ih remark
  | @replace remark parts rest others hremark _ ih =>
    intro speaker
    exact (hR _ _ hremark rest speaker).trans (interchangeable_remarkCues_append ih parts speaker)

end Vocabulary

/-- Remarks that may give way on their own may do so all over a script. -/
theorem Script.Revised.outcome_eq_of_rewritten {v : Vocabulary} {script other : Script}
    {R : Remark → List Remark → Prop}
    (hR : ∀ roster remark parts, R remark parts → ∀ rest speaker,
      Interchangeable (v.remarkCues roster speaker (remark :: rest))
        (v.remarkCues roster speaker (parts ++ rest)))
    (h : script.Revised (Remark.Rewritten R) other) :
    (script.perform v).outcome = (other.perform v).outcome := by
  refine h.outcome_eq fun roster remarks others hremarks => ?_
  exact Vocabulary.interchangeable_of_rewritten (hR roster) hremarks none

/-! ## Taking the floor again -/

/-- Whether a cue belongs to what happens within a scene. -/
def Cue.isInScene : Cue → Bool
  | .act => false
  | .scene => false
  | _ => true

theorem Graph.Grows.holds {g grown : Graph} {kind : NodeKind} {id : String} (h : g.Grows grown)
    (hg : g.Holds kind id) : grown.Holds kind id := by
  obtain ⟨n, hn, hk⟩ := hg
  obtain ⟨added, hadded⟩ := h.nodes
  refine ⟨n, ?_, hk⟩
  rw [Graph.node?, ← hadded, List.find?_append]
  exact Option.or_eq_some_iff.mpr (.inl hn)

namespace Stage

variable {s s' : Stage} {name : String} {c : Character} {cue : Cue} {between rest : List Cue}

/-- The character of the given name is on stage in the current scene. -/
def HasOnstage (s : Stage) (name : String) : Prop :=
  s.graph.Holds .character (s.nodeId name)

theorem sceneId_addNode (s : Stage) (n : Node) : (s.addNode n).2.sceneId = s.sceneId := by
  unfold addNode
  split <;> rfl

theorem sceneId_address (s : Stage) (speaker : String) (target : Target) (text : String)
    (tags : List String) : (s.address speaker target text tags).2.sceneId = s.sceneId := by
  unfold address addEdge
  split <;> rfl

/-- Within a scene the scene stays the same. -/
theorem sceneId_take (h : cue.isInScene = true) (s : Stage) :
    (s.take cue).2.sceneId = s.sceneId := by
  have hkeeps : ∀ {α β : Type} {r : Except Fault α × Stage}
      {f : α → Stage → Except Fault β × Stage}, r.2.sceneId = s.sceneId →
      (∀ a s, (f a s).2.sceneId = s.sceneId) → (proceed r f).2.sceneId = s.sceneId :=
    fun hr hf => proceed_keeps (P := fun s' => s'.sceneId = s.sceneId) hr
      fun a s hs => (hf a s).trans hs
  cases cue with
  | tell note => rfl
  | act => cases h
  | scene => cases h
  | direction speaker text =>
    show (s.direct speaker text).2.sceneId = s.sceneId
    rw [direct_eq_proceed, addDirection_eq_proceed]
    refine hkeeps (hkeeps (sceneId_addNode s.nextDirection _) fun _ _ => rfl) fun index s => ?_
    cases speaker with
    | none => rfl
    | some name => exact sceneId_address ..
  | floor previous speaker =>
    show (s.giveFloor previous speaker).2.sceneId = s.sceneId
    rw [giveFloor_eq_proceed]
    refine hkeeps (sceneId_addNode s _) fun created s => ?_
    split
    · split
      · rfl
      · exact sceneId_address ..
    · rfl
  | address speaker listener text tags =>
    show (s.exchange speaker listener text tags).2.sceneId = s.sceneId
    rw [exchange_eq_proceed]
    exact hkeeps (sceneId_addNode s _) fun _ s => sceneId_address ..
  | fail fault => rfl

theorem HasOnstage.mono (h : s.HasOnstage name) (hscene : s'.sceneId = s.sceneId)
    (hgrows : s.graph.Grows s'.graph) : s'.HasOnstage name := by
  unfold HasOnstage
  rw [nodeId_eq, hscene, ← nodeId_eq]
  exact hgrows.holds h

/-- Nobody leaves the stage within a scene. -/
theorem HasOnstage.take (h : s.HasOnstage name) (hcue : cue.isInScene = true) :
    (s.take cue).2.HasOnstage name :=
  h.mono (sceneId_take hcue s) (grows_take s cue)

theorem HasOnstage.takeAll (h : s.HasOnstage name)
    (hcues : ∀ cue ∈ between, cue.isInScene = true) : (s.takeAll between).2.HasOnstage name := by
  induction between generalizing s with
  | nil => exact h
  | cons cue between ih =>
    obtain ⟨hcue, hrest⟩ := List.forall_mem_cons.mp hcues
    rw [takeAll_cons_eq_proceed]
    exact proceed_keeps (P := fun s => s.HasOnstage name) (h.take hcue) fun _ s hs => ih hs hrest

theorem hasOnstage_of_enter {tags : List String} {created : Bool}
    (h : s.enter name tags = (.ok created, s')) : s'.HasOnstage name := by
  unfold enter at h
  cases hn : s.graph.node? (s.characterNode name tags).id with
  | none =>
    rw [addNode_of_none hn] at h
    cases h
    exact (Graph.holds_append hn).mpr (.inr ⟨rfl, rfl⟩)
  | some m =>
    by_cases hk : m.kind = (s.characterNode name tags).kind
    · rw [addNode_of_same_kind hn hk] at h
      cases h
      exact ⟨m, hn, hk⟩
    · rw [addNode_of_other_kind hn hk] at h
      cases h

/-- Whoever has taken the floor is on stage. -/
theorem hasOnstage_of_floor {previous : Option String}
    (h : s.take (.floor previous c) = (.ok (), s')) : s'.HasOnstage c.name := by
  have hfloor : s.giveFloor previous c = (.ok (), s') := h
  rw [giveFloor_eq_proceed] at hfloor
  obtain ⟨created, s₁, henter, hrest⟩ := proceed_eq_ok hfloor
  have hstage := hasOnstage_of_enter henter
  -- an edge from the previous speaker may follow
  split at hrest
  · split at hrest
    · cases hrest
      exact hstage
    · rw [← show _ = s' from congrArg Prod.snd hrest]
      exact hstage.mono (sceneId_address ..) (grows_address ..)
  · cases hrest
    exact hstage

/-- Somebody who is on stage takes the floor, and nothing else comes of it. -/
theorem HasOnstage.take_floor (h : s.HasOnstage c.name) (previous : Option String) :
    s.take (.floor previous c) = (.ok (), s) := by
  obtain ⟨m, hm, hk⟩ := h
  have henter : s.enter c.name c.tags = (.ok false, s) := addNode_of_same_kind hm hk
  show s.giveFloor previous c = _
  rw [giveFloor_eq_proceed, henter]
  rfl

/-- Within a scene, taking the floor again is as good as not taking it. -/
theorem takeAll_floor_again (hbetween : ∀ cue ∈ between, cue.isInScene = true) (s : Stage)
    (previous again : Option String) (c : Character) (rest : List Cue) :
    s.takeAll (.floor previous c :: (between ++ .floor again c :: rest))
      = s.takeAll (.floor previous c :: (between ++ rest)) := by
  rw [takeAll_cons_eq_proceed, takeAll_cons_eq_proceed]
  refine proceed_congr fun _ s₁ hfloor => ?_
  rw [takeAll_append_eq_proceed, takeAll_append_eq_proceed]
  refine proceed_congr fun _ s₂ htakes => ?_
  have hstage := (hasOnstage_of_floor hfloor).takeAll hbetween
  rw [htakes] at hstage
  rw [Stage.takeAll, hstage.take_floor again]

end Stage

/-! ## Cutting a speech in two -/

/-- A speech is cut in two. In the second part the name may be spelled in another way. -/
inductive Remark.SplitSpeech : Remark → List Remark → Prop where
  | intro {name other : String} (first second : List String) : uppercase name = uppercase other →
    SplitSpeech (.speech (.single name (first ++ second)))
      [.speech (.single name first), .speech (.single other second)]

namespace Vocabulary

variable {v : Vocabulary} {roster : Roster} {speaker line text : String} {remark : Remark}
  {parts : List Remark}

theorem isInScene_of_mem_lineCues {cue : Cue} (h : cue ∈ v.lineCues roster speaker line) :
    cue.isInScene = true := by
  rcases List.mem_append.mp h with h | h
  · obtain ⟨note, -, rfl⟩ := List.mem_map.mp h
    rfl
  · cases hline : Line.ofText v line with
    | direction text =>
      rw [hline] at h
      rw [List.mem_singleton.mp h]
      rfl
    | dialogue d =>
      rw [hline] at h
      obtain ⟨a, -, rfl⟩ := List.mem_map.mp h
      cases roster.lookup a.name <;> rfl

theorem interchangeable_of_splitSpeech (h : Remark.SplitSpeech remark parts) (rest : List Remark)
    (speaker : Option String) : Interchangeable (v.remarkCues roster speaker (remark :: rest))
      (v.remarkCues roster speaker (parts ++ rest)) := by
  obtain @⟨name, other, first, second, hname⟩ := h
  rw [List.cons_append, List.cons_append, List.nil_append]
  cases hl : roster.lookup name with
  | error fault =>
    rw [remarkCues_single_of_error hl, remarkCues_single_of_error hl]
    exact interchangeable_refl _
  | ok c =>
    have hother : roster.lookup other = .ok c := by
      rw [Roster.lookup_eq_ok_iff, ← roster.find?_congr hname]
      exact Roster.lookup_eq_ok_iff.mp hl
    have hfirst : ∀ cue ∈ first.flatMap (v.lineCues roster c.name), cue.isInScene = true := by
      intro cue hcue
      obtain ⟨line, -, hline⟩ := List.mem_flatMap.mp hcue
      exact isInScene_of_mem_lineCues hline
    rw [remarkCues_single hl, remarkCues_single hl, remarkCues_single hother, List.flatMap_append,
      List.append_assoc]
    exact interchangeable_of_takeAll_eq fun s =>
      (Stage.takeAll_floor_again hfirst s speaker (some c.name) c _).symm

end Vocabulary

namespace Script

variable {v : Vocabulary} {script other : Script}

theorem revised_onlyScene {R : List Remark → List Remark → Prop} {remarks others : List Remark}
    (h : R remarks others) : (script.onlyScene v remarks).Revised R (script.onlyScene v others) :=
  ⟨rfl, rfl, rfl, rfl, .cons (.cons ⟨rfl, .cons (.scene (.cons ⟨rfl, h⟩ .nil)) .nil⟩ .nil) .nil⟩

/-- **Cutting a speech in two changes nothing.** The outcome is the same play or the same fault. -/
theorem perform_splitSpeech (h : script.Revised (Remark.Rewritten Remark.SplitSpeech) other) :
    (script.perform v).outcome = (other.perform v).outcome :=
  h.outcome_eq_of_rewritten fun _ _ _ => Vocabulary.interchangeable_of_splitSpeech

theorem perform_splitSpeech_errand : ∃ play,
    ((errand.onlyScene {} [.speech (.single "Bob" []),
      .speech (.single "ALICE" ["(To bob)Open up.", "[Knocks.]"]),
      .direction "[Rain.]"]).perform {}).outcome = .ok play ∧
    play.graph.nodes.map (·.label) = ["SCENE 1", "Bob", "Alice", "Knocks.", "Rain."] ∧
    play.graph.edges.map (fun e => (e.target, e.label))
      = [("ACT 1.SCENE 1.Alice", ""), ("ACT 1.SCENE 1.Bob", "Open up"), ("ACT 1.SCENE 1.1", ""),
        ("ACT 1.SCENE 1.2", "")] ∧
    ((errand.onlyScene {} [.speech (.single "Bob" []),
      .speech (.single "ALICE" ["(To bob)Open up."]), .speech (.single "alice" ["[Knocks.]"]),
      .direction "[Rain.]"]).perform {}).outcome = .ok play := by
  have hremarks : Remark.Rewritten Remark.SplitSpeech _ _ :=
    .once (.intro ["(To bob)Open up."] ["[Knocks.]"]
      (show uppercase "ALICE" = uppercase "alice" by decide +kernel))
      [.direction "[Rain.]"] [.speech (.single "Bob" [])]
  have hsame : ((errand.onlyScene {} _).perform {}).outcome
      = ((errand.onlyScene {} _).perform {}).outcome :=
    perform_splitSpeech (revised_onlyScene hremarks)
  exact ⟨_, rfl, rfl, rfl, hsame.symm.trans rfl⟩

end Script

/-! ## Setting a direction apart -/

namespace Vocabulary

/-- A line is a direction in a speech, and it may stand apart from the speech: it is not the word
that ends a scene, and it is not both in brackets and opened like an address. -/
structure StandsAlone (v : Vocabulary) (line : String) : Prop where
  direction : ∃ text, Line.ofText v line = .direction text
  continues : line ≠ v.curtain
  unambiguous : ¬(v.OpensAddress line ∧ v.Encloses line)

/-- A direction at the end of a speech is set apart from it. -/
inductive SetApart (v : Vocabulary) : Remark → List Remark → Prop where
  | intro (name : String) (lines : List String) {line : String} : v.StandsAlone line →
    SetApart v (.speech (.single name (lines ++ [line])))
      [.speech (.single name lines), .direction line]

variable {v : Vocabulary} {roster : Roster} {line text : String} {remark : Remark}
  {parts : List Remark}

/-- In a speech and out of it, a direction has the same text. -/
theorem eq_directionText (h : Line.ofText v line = .direction text)
    (hambiguous : ¬(v.OpensAddress line ∧ v.Encloses line)) : text = v.directionText line := by
  unfold Line.ofText at h
  cases hform : v.lineForm line with
  | direction =>
    rw [hform] at h
    cases h
    rfl
  | unclosed =>
    rw [hform] at h
    cases h
    -- an address that is never closed is taken as it is, and so is a line without brackets
    have hopens : v.OpensAddress line := opensAddress_iff.mpr (by rw [hform]; nofun)
    have hbare := enclosed?_eq_none_iff.mpr fun hencloses => hambiguous ⟨hopens, hencloses⟩
    rw [directionText, hbare, Option.getD_none]
  | addressed tokens rest =>
    rw [hform] at h
    cases h

theorem not_ambiguous_default (line : String) :
    ¬(({} : Vocabulary).OpensAddress line ∧ ({} : Vocabulary).Encloses line) := by
  rintro ⟨⟨rest, rfl⟩, inner, h⟩
  have hlist := congrArg String.toList h
  simp at hlist

theorem interchangeable_of_setApart (h : v.SetApart remark parts) (rest : List Remark)
    (speaker : Option String) : Interchangeable (v.remarkCues roster speaker (remark :: rest))
      (v.remarkCues roster speaker (parts ++ rest)) := by
  obtain @⟨name, lines, line, hline⟩ := h
  obtain ⟨text, htext⟩ := hline.direction
  rw [List.cons_append, List.cons_append, List.nil_append]
  cases hl : roster.lookup name with
  | error fault =>
    rw [remarkCues_single_of_error hl, remarkCues_single_of_error hl]
    exact interchangeable_refl _
  | ok c =>
    -- there may be other notes to take, but the actions are the same
    refine interchangeable_of_actions_eq ?_
    have hgoes : v.closesScene (.direction line) = false := by
      simpa [closesScene] using hline.continues
    rw [remarkCues_single hl, remarkCues_single hl, remarkCues_direction hgoes,
      ← eq_directionText htext hline.unambiguous]
    simp [lineCues, htext, isAction]

end Vocabulary

namespace Script

/-- **A direction is the same in a speech and after it.** Setting a direction apart from the end of
a speech changes nothing: the outcome is the same play or the same fault. The text is the same, too,
also if the line is an address that is never closed. With the default marks no line is both in
brackets and opened like an address. -/
theorem perform_setApart (v : Vocabulary) :
    (∀ script other : Script, script.Revised (Remark.Rewritten v.SetApart) other →
      (script.perform v).outcome = (other.perform v).outcome) ∧
    (∀ line text, Line.ofText v line = .direction text →
      ¬(v.OpensAddress line ∧ v.Encloses line) → text = v.directionText line) ∧
    ∀ line, ¬(({} : Vocabulary).OpensAddress line ∧ ({} : Vocabulary).Encloses line) := by
  refine ⟨fun script other h => ?_, fun _ _ => Vocabulary.eq_directionText,
    Vocabulary.not_ambiguous_default⟩
  exact h.outcome_eq_of_rewritten fun _ _ _ => Vocabulary.interchangeable_of_setApart

theorem perform_setApart_errand : ∃ play,
    ((errand.onlyScene {} [.speech (.single "ALICE" ["(To bob)Open up.", "[Knocks.]"]),
      .speech (.single "Bob" ["(To himself"])]).perform {}).outcome = .ok play ∧
    play.graph.nodes.map (·.label) = ["SCENE 1", "Alice", "Bob", "Knocks.", "(To himself"] ∧
    ((errand.onlyScene {} [.speech (.single "ALICE" ["(To bob)Open up."]), .direction "[Knocks.]",
      .speech (.single "Bob" []), .direction "(To himself"]).perform {}).outcome = .ok play := by
  obtain ⟨houtcome, -, -⟩ := perform_setApart {}
  have hknocks : ({} : Vocabulary).StandsAlone "[Knocks.]" :=
    ⟨⟨"Knocks.", rfl⟩, by decide, Vocabulary.not_ambiguous_default _⟩
  have hhimself : ({} : Vocabulary).StandsAlone "(To himself" :=
    ⟨⟨"(To himself", rfl⟩, by decide, Vocabulary.not_ambiguous_default _⟩
  have hremarks : Remark.Rewritten ({} : Vocabulary).SetApart
      [.speech (.single "ALICE" ["(To bob)Open up.", "[Knocks.]"]),
        .speech (.single "Bob" ["(To himself"])] _ :=
    .replace (.intro "ALICE" ["(To bob)Open up."] hknocks)
      (.replace (.intro "Bob" [] hhimself) .nil)
  have hsame : _ = ((errand.onlyScene {} _).perform {}).outcome :=
    houtcome (errand.onlyScene {} _) _ (revised_onlyScene hremarks)
  exact ⟨_, rfl, rfl, hsame.symm.trans rfl⟩

end Script

/-- With other marks a line may be both. In a speech it is taken as it is, and out of it its
brackets are taken off. -/
example : Line.ofText { addressOpen := "[" } "[Knocks.]" = .direction "[Knocks.]" ∧
    ({ addressOpen := "[" } : Vocabulary).directionText "[Knocks.]" = "Knocks." := by
  decide

end Dramaturgy
