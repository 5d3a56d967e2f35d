import Dramaturgy.Proofs.Floor
import Dramaturgy.Proofs.Revision

/-!
# How names are spelled

In the plot of a script names may be written in any case, and one name may be written in several
ways. The roster compares names in upper case, where a letter may turn into two; the stage and the
graph compare them as they are. That the spelling does not matter is due to every name being looked
up before it comes on stage. `Vocabulary.SameRemark` relates remarks that are the same but for the
spelling of names, and `perform_respelled` says that the same play comes of scripts with such
remarks. In its graph everybody is called as in the roster (`Play.CalledByRoster`).
-/

namespace Dramaturgy

open Event Text

/-! ## Other spellings -/

/-- Two addressees are the same but for the spelling of the name. -/
structure Addressee.Respelled (a b : Addressee) : Prop where
  name : uppercase a.name = uppercase b.name
  nameless : a.name = "" ↔ b.name = ""
  tag : a.tag = b.tag

instance : DecidableRel Addressee.Respelled := fun a b =>
  decidable_of_iff
    (uppercase a.name = uppercase b.name ∧ (a.name = "" ↔ b.name = "") ∧ a.tag = b.tag)
    ⟨fun ⟨hname, hnameless, htag⟩ => ⟨hname, hnameless, htag⟩, fun h => ⟨h.name, h.nameless, h.tag⟩⟩

/-- Two lines are dialogue with the same text, and their addressees are the same but for the
spelling of names. -/
def Line.Respelled : Line → Line → Prop
  | .dialogue d, .dialogue d' =>
    d.text = d'.text ∧ List.Forall₂ Addressee.Respelled d.addressees d'.addressees
  | .direction _, _ => False
  | _, .direction _ => False

instance : DecidableRel Line.Respelled := fun
  | .dialogue _, .dialogue _ => inferInstanceAs (Decidable (_ ∧ _))
  | .direction _, _ => inferInstanceAs (Decidable False)
  | .dialogue _, .direction _ => inferInstanceAs (Decidable False)

namespace Vocabulary

/-- Two lines of a speech are the same but for the spelling of names in dialogue. -/
def SameLine (v : Vocabulary) (line other : String) : Prop :=
  line = other ∨ (Line.ofText v line).Respelled (Line.ofText v other)

instance (v : Vocabulary) : DecidableRel v.SameLine := fun _ _ =>
  inferInstanceAs (Decidable (_ ∨ _))

/-- Two remarks are the same but for the spelling of names. That of the speaker may differ in a
speech that has no other key. -/
inductive SameRemark (v : Vocabulary) : Remark → Remark → Prop where
  | direction (text : String) : SameRemark v (.direction text) (.direction text)
  | single {name other : String} {lines lines' : List String} :
    uppercase name = uppercase other → List.Forall₂ v.SameLine lines lines' →
    SameRemark v (.speech (.single name lines)) (.speech (.single other lines'))
  | speech {record other : Record (List String)} :
    record.Related (List.Forall₂ v.SameLine) other → SameRemark v (.speech record) (.speech other)

end Vocabulary

/-! ## The same events -/

namespace Addressee.Respelled

variable {a b : Addressee} {addressees others : List Addressee}

theorem isEmpty_eq (h : a.Respelled b) : a.isEmpty = b.isEmpty := by
  rw [Bool.eq_iff_iff, isEmpty, isEmpty, String.isEmpty_iff, String.isEmpty_iff, h.nameless]

theorem tags_eq (h : List.Forall₂ Addressee.Respelled addressees others) :
    addressees.filterMap (·.tag) = others.filterMap (·.tag) := by
  induction h with
  | nil => rfl
  | cons ha _ ih => rw [List.filterMap_cons, List.filterMap_cons, ha.tag, ih]

/-- Whoever is addressed is found in the roster under either spelling. -/
theorem map_find?_eq (h : List.Forall₂ Addressee.Respelled addressees others) (r : Roster) :
    (addressees.filter (!·.isEmpty)).map (fun a => r.find? a.name)
      = (others.filter (!·.isEmpty)).map (fun a => r.find? a.name) := by
  induction h with
  | nil => rfl
  | @cons a b addressees others ha _ ih =>
    rw [List.filter_cons, List.filter_cons, ha.isEmpty_eq]
    split
    · rw [List.map_cons, List.map_cons, r.find?_congr ha.name, ih]
    · exact ih

end Addressee.Respelled

theorem Line.Respelled.exists_dialogue : ∀ {l l' : Line}, l.Respelled l' →
    ∃ d d', l = .dialogue d ∧ l' = .dialogue d' ∧ d.text = d'.text ∧
      List.Forall₂ Addressee.Respelled d.addressees d'.addressees
  | .dialogue d, .dialogue d', h => ⟨d, d', rfl, rfl, h.1, h.2⟩

namespace Vocabulary

variable {v : Vocabulary} {roster : Roster}

theorem SameLine.map_resolve_eq {line other : String} (h : v.SameLine line other)
    (roster : Roster) : (v.lineEvents line).map (Event.resolve roster)
      = (v.lineEvents other).map (Event.resolve roster) := by
  rcases h with rfl | h
  · rfl
  · obtain ⟨d, d', hline, hother, htext, haddressees⟩ := h.exists_dialogue
    -- an address is resolved by looking up who is addressed
    have hresolve : ∀ (listeners : List Addressee) (text : String) (tags : List String),
        (listeners.map fun a => Event.address a.name text tags).map (Event.resolve roster)
          = (listeners.map fun a => roster.find? a.name).map
              (·.map fun c => Event.address c text tags) := by
      intro listeners text tags
      rw [List.map_map, List.map_map]
      rfl
    have htags : d.tags = d'.tags := Addressee.Respelled.tags_eq haddressees
    rw [lineEvents_of_dialogue hline, lineEvents_of_dialogue hother]
    simp only [hresolve, htext, htags]
    rw [Dialogue.listeners, Dialogue.listeners, Addressee.Respelled.map_find?_eq haddressees]

theorem map_resolve_lines_eq {lines others : List String}
    (h : List.Forall₂ v.SameLine lines others) (roster : Roster) :
    (lines.flatMap v.lineEvents).map (Event.resolve roster)
      = (others.flatMap v.lineEvents).map (Event.resolve roster) := by
  induction h with
  | nil => rfl
  | cons hline _ ih =>
    rw [List.flatMap_cons, List.flatMap_cons, List.map_append, List.map_append,
      hline.map_resolve_eq, ih]

/-- Entries of a speech are resolved alike if their keys are the same in upper case. -/
theorem map_resolve_entries_eq {entries others : List (String × List String)}
    (h : List.Forall₂ (fun entry other => uppercase entry.1 = uppercase other.1 ∧
      List.Forall₂ v.SameLine entry.2 other.2) entries others) (roster : Roster) :
    (entries.flatMap fun (name, lines) =>
        .speech name :: lines.flatMap v.lineEvents).map (Event.resolve roster)
      = (others.flatMap fun (name, lines) =>
          .speech name :: lines.flatMap v.lineEvents).map (Event.resolve roster) := by
  induction h with
  | nil => rfl
  | @cons entry other entries others hentry _ ih =>
    rw [List.flatMap_cons, List.flatMap_cons, List.map_append, List.map_append, ih, List.map_cons,
      List.map_cons, map_resolve_lines_eq hentry.2, Event.resolve, Event.resolve,
      roster.find?_congr hentry.1]

namespace SameRemark

variable {remark other : Remark}

theorem closesScene_eq (h : v.SameRemark remark other) :
    v.closesScene remark = v.closesScene other := by
  cases h <;> rfl

theorem isSingle_eq (h : v.SameRemark remark other) : remark.isSingle = other.isSingle := by
  cases h with
  | direction text => rfl
  | single hname hlines => rfl
  | speech hrecord =>
    rw [Remark.isSingle, Remark.isSingle, Record.size, Record.size, hrecord.length_eq]

theorem map_resolve_eq (h : v.SameRemark remark other) (roster : Roster) :
    (v.remarkEvents remark).map (Event.resolve roster)
      = (v.remarkEvents other).map (Event.resolve roster) := by
  cases h with
  | direction text => rfl
  | @single name other lines lines' hname hlines =>
    have hentries : List.Forall₂ (fun entry other => uppercase entry.1 = uppercase other.1 ∧
        List.Forall₂ v.SameLine entry.2 other.2) [(name, lines)] [(other, lines')] :=
      .cons ⟨hname, hlines⟩ .nil
    exact map_resolve_entries_eq hentries roster
  | speech hrecord =>
    exact map_resolve_entries_eq (hrecord.imp fun _ _ h => ⟨congrArg uppercase h.1, h.2⟩) roster

end SameRemark

/-- Remarks that are the same but for the spelling of names tell the same events. -/
theorem stagedScene_eq_of_same {remarks others : List Remark}
    (h : List.Forall₂ v.SameRemark remarks others) (roster : Roster) :
    v.stagedScene roster remarks = v.stagedScene roster others := by
  induction h with
  | nil => rfl
  | @cons remark other remarks others hremark _ ih =>
    have hends := hremark.closesScene_eq
    cases hend : v.closesScene remark with
    | true => rw [stagedScene_of_closes hend, stagedScene_of_closes (hends ▸ hend)]
    | false =>
      rw [stagedScene_cons hend, stagedScene_cons (hends ▸ hend), hremark.isSingle_eq, ih,
        mapM_congr_map (hremark.map_resolve_eq roster)]

end Vocabulary

/-! ## The spelling of the roster -/

/-- In the graph of a play everybody is called as in the roster. -/
structure Play.CalledByRoster (play : Play) : Prop where
  /-- The node of a character is that of someone in the roster, tags included. -/
  nodes : ∀ n ∈ play.graph.nodes, n.kind = .character →
    ∃ scene ∈ play.graph.nodes, scene.kind = .scene ∧
      ∃ c ∈ play.roster.characters, n = .ofCharacter scene.id c
  /-- An edge leads from someone in the roster to someone in the roster or to a direction. -/
  edges : ∀ e ∈ play.graph.edges, ∃ scene ∈ play.graph.nodes, scene.kind = .scene ∧
    (∃ c ∈ play.roster.characters, e.source = localId scene.id c.name) ∧
    ((∃ c ∈ play.roster.characters, e.target = localId scene.id c.name) ∨
      ∃ n ∈ play.graph.nodes, n.kind = .direction ∧ n.id = e.target)

namespace Script

variable {v : Vocabulary} {script other : Script} {scenes : List (List (Event Character))}
  {events : List (Event Character)} {play : Play}

/-- Whoever is on stage is in the roster. -/
theorem mem_roster_of_onstage (h : script.staged v = some scenes) (hmem : events ∈ scenes)
    {c : Character} (hc : c ∈ onstage events) : c ∈ (script.writtenRoster v).characters := by
  obtain ⟨remarks, hscene⟩ := exists_stagedScene h hmem
  obtain ⟨-, hread⟩ := Option.ite_none_right_eq_some.mp hscene
  have hsome := List.mem_map_of_mem (f := some) hc
  rw [← (counts_of_resolve (mapM_eq_some_iff.mp hread)).2] at hsome
  obtain ⟨name, -, hfind⟩ := List.mem_map.mp hsome
  exact (Roster.mem_of_find? hfind).1

theorem calledByRoster_toPlay (h : script.staged v = some scenes) :
    (script.toPlay (script.writtenRoster v) (v.outline scenes)).CalledByRoster where
  nodes n hn hk := by
    obtain ⟨i, events, hget, hmem⟩ := Vocabulary.mem_nodes_outline.mp hn
    have hscene : v.sceneNode (i + 1) ∈ (v.outline scenes).nodes :=
      Vocabulary.mem_nodes_outline.mpr ⟨i, events, hget, List.mem_cons_self⟩
    rcases List.mem_cons.mp hmem with rfl | hmem
    · cases hk
    · rcases mem_nodes_cases hmem with ⟨past, text, rest, -, rfl⟩ | ⟨c, hc, rfl⟩
      · cases hk
      · exact ⟨_, hscene, rfl, c, mem_roster_of_onstage h (List.mem_of_getElem? hget) hc, rfl⟩
  edges e he := by
    obtain ⟨i, events, hget, hmem⟩ := Vocabulary.mem_edges_outline.mp he
    have hscene : v.sceneNode (i + 1) ∈ (v.outline scenes).nodes :=
      Vocabulary.mem_nodes_outline.mpr ⟨i, events, hget, List.mem_cons_self⟩
    have hroster : ∀ c ∈ onstage events, c ∈ (script.writtenRoster v).characters :=
      fun c hc => mem_roster_of_onstage h (List.mem_of_getElem? hget) hc
    obtain ⟨past, e', rest, speaker, hevents, hspeaker, hsource, htarget⟩ := mem_edges_cases hmem
    have hfloor : speaker ∈ onstage events := by
      rw [hevents, onstage_append]
      exact List.mem_append_left _ (mem_onstage_of_floor? hspeaker)
    refine ⟨_, hscene, rfl, ⟨speaker, hroster _ hfloor, hsource⟩, ?_⟩
    rcases htarget with ⟨text, rfl, htarget⟩ | ⟨c, hc, htarget⟩
    · -- the direction has added its node
      refine .inr ⟨.ofDirection _ (directionCount past + 1) text, ?_, rfl, htarget.symm⟩
      exact Vocabulary.mem_nodes_outline.mpr
        ⟨i, events, hget, List.mem_cons_of_mem _ (ofDirection_mem _ hevents)⟩
    · exact .inl ⟨c, hroster c (by simp [hevents, hc]), htarget⟩

/-- Somebody whose name grows in upper case. She speaks in both scenes, and to herself. -/
def monologue : Script where
  characters := [.single "Frau Weiß" "A clerk. [Clerk]", .single "Ann" "A visitor. [User]"]
  plot :=
    [.single "ACT 1"
      [.scene (.single "SCENE 1"
        [.speech (.single "Frau Weiß" ["(To Ann[aside], Frau Weiß)Who is there?", "[Looks up.]"]),
          .speech (.single "Ann" ["(To Frau Weiß, )Good morning."]),
          .speech (.single "Frau Weiß" [])]),
        .scene (.single "SCENE 2" [.speech (.single "Frau Weiß" ["(To Ann)Good-bye."])])]]

/-- The same with names that are spelled in other ways. -/
def respelledMonologue : Script where
  characters := monologue.characters
  plot :=
    [.single "ACT 1"
      [.scene (.single "SCENE 1"
        [.speech (.single "FRAU WEISS"
            ["(To ANN [aside], frau weiss)Who is there?", "[Looks up.]"]),
          .speech (.single "ann" ["(To frau weiß,)Good morning."]),
          .speech (.single "Frau weiss" [])]),
        .scene (.single "SCENE 2" [.speech (.single "FRAU WEIß" ["(To aNN)Good-bye."])])]]

/-- **The spelling of names does not matter.** Scripts that are the same but for the spelling of
names in the plot are performed with the same play or not at all, and in the play everybody is
called as in the roster. -/
theorem perform_respelled (h : script.Revised (List.Forall₂ v.SameRemark) other) :
    (∀ play, (script.perform v).outcome = .ok play ↔ (other.perform v).outcome = .ok play) ∧
    ∀ play, (script.perform v).outcome = .ok play → play.CalledByRoster := by
  have hstaged : script.staged v = other.staged v :=
    h.staged_eq fun roster _ _ hremarks => Vocabulary.stagedScene_eq_of_same hremarks roster
  refine ⟨fun play => ?_, fun play hplay => ?_⟩
  · simp only [perform_eq_ok_iff, h.hasRoster_iff, hstaged, h.toPlay_eq, h.writtenRoster_eq]
  · obtain ⟨-, scenes, hscenes, -, rfl⟩ := perform_eq_ok_iff.mp hplay
    exact calledByRoster_toPlay hscenes

theorem revised_respelledMonologue :
    monologue.Revised (List.Forall₂ ({} : Vocabulary).SameRemark) respelledMonologue := by
  have hsingle : ∀ {name other : String} {lines lines' : List String},
      uppercase name = uppercase other ∧ List.Forall₂ ({} : Vocabulary).SameLine lines lines' →
      ({} : Vocabulary).SameRemark (.speech (.single name lines))
        (.speech (.single other lines')) :=
    fun h => .single h.1 h.2
  refine ⟨rfl, rfl, rfl, rfl, .cons (.cons ⟨rfl, .cons (.scene (.cons ⟨rfl, ?_⟩ .nil))
    (.cons (.scene (.cons ⟨rfl, ?_⟩ .nil)) .nil)⟩ .nil) .nil⟩
  · exact .cons (hsingle (by decide +kernel)) (.cons (hsingle (by decide +kernel))
      (.cons (hsingle (by decide +kernel)) .nil))
  · exact .cons (hsingle (by decide +kernel)) .nil

theorem perform_respelled_monologue : ∃ play, (monologue.perform {}).outcome = .ok play ∧
    play.graph.nodes.map (·.label)
      = ["SCENE 1", "Frau Weiß", "Ann", "Looks up.", "SCENE 2", "Frau Weiß", "Ann"] ∧
    (respelledMonologue.perform {}).outcome = .ok play ∧ play.CalledByRoster := by
  obtain ⟨hsame, hcalled⟩ := perform_respelled revised_respelledMonologue
  have hplay : (monologue.perform {}).outcome = .ok _ := rfl
  exact ⟨_, hplay, rfl, (hsame _).mp hplay, hcalled _ hplay⟩

end Script

end Dramaturgy
