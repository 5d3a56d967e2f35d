import Dramaturgy.Proofs.Blank
import Dramaturgy.Proofs.Operation
import Dramaturgy.Proofs.Replay

/-!
# Labels and the texts they come from

The label of an edge is a text without the blanks around it, without one full stop at its end, and
without the blanks before that (`IsLabelOf`). No other character is dropped, and of several full stops
the last one only.

Every edge with a label or tags has come by a text: on a stage by the text of an operation, in a play
by the text of a line. `Script.Says` finds the line in the script: the source of the edge speaks it,
and the target is one of those it is addressed to (`says_of_perform`). The other way round, each line
gives an edge to each of those it is addressed to, with the label that its text makes
(`mem_edges_of_says`).
-/

namespace Dramaturgy

open Event Text

/-! ## Dropping a full stop -/

/-- A label is what is left of a text without blanks around it and, perhaps, a full stop at its end
with the blanks before that. -/
structure IsLabelOf (label text : String) : Prop where
  isTrimmed : IsTrimmed label.toList
  kept : trimmed text = label ∨ ∃ blanks : String, (∀ c ∈ blanks.toList, isBlank c) ∧
    trimmed text = label ++ blanks ++ "."

namespace Text

variable {s before after : List Char} {text : String}

theorem trim_between (hbefore : ∀ c ∈ before, isBlank c) (hafter : ∀ c ∈ after, isBlank c) :
    trim (before ++ s ++ after) = trim s := by
  obtain ⟨front, back, hs, hfront, hback⟩ := exists_blanks s
  refine trim_eq_iff.mpr ⟨isTrimmed_trim s, before ++ front, back ++ after, ?_, ?_, ?_⟩
  · conv_lhs => rw [hs]
    simp only [List.append_assoc]
  · exact List.forall_mem_append.mpr ⟨hbefore, hfront⟩
  · exact List.forall_mem_append.mpr ⟨hback, hafter⟩

theorem trim_trimStart (s : List Char) : trim (trimStart s) = trim s := by
  rw [trim, trim, trimStart_eq_self (head?_trimStart s)]

/-- A full stop keeps the blanks before it. -/
theorem trim_append_fullStop (s : List Char) : trim (s ++ ['.']) = trimStart s ++ ['.'] := by
  have hstart : trimStart (s ++ ['.']) = trimStart s ++ ['.'] := by
    rw [trimStart, trimStart, List.dropWhile_append]
    split
    · next hnil =>
      rw [List.isEmpty_iff.mp hnil]
      rfl
    · rfl
  rw [trim, hstart]
  refine trimEnd_eq_self fun c hc => ?_
  obtain rfl : '.' = c := by simpa using hc
  rfl

/-- Where no blank comes first, only blanks at the end are dropped. -/
theorem exists_blanks_of_start (h : ∀ c ∈ s.head?, isBlank c = false) :
    ∃ blanks, s = trim s ++ blanks ∧ ∀ c ∈ blanks, isBlank c := by
  refine ⟨s.rtakeWhile isBlank, ?_, fun c => List.mem_rtakeWhile_imp⟩
  rw [trim, trimStart_eq_self h, trimEnd_eq_rdropWhile, List.rdropWhile_append_rtakeWhile]

end Text

variable {text other label : String}

theorem withoutFullStop_cases (text : String) :
    (∃ s, trim text.toList = s ++ ['.'] ∧ withoutFullStop text = .ofList (trim s)) ∨
    ¬['.'] <:+ trim text.toList ∧ withoutFullStop text = trimmed text := by
  unfold withoutFullStop
  cases hs : before? ['.'] (trim text.toList) with
  | some s => exact .inl ⟨s, before?_eq_some_iff.mp hs, by simp only [hs]⟩
  | none =>
    refine .inr ⟨?_, by simp only [hs]; rfl⟩
    rintro ⟨s, hs'⟩
    rw [before?_eq_some_iff.mpr hs'.symm] at hs
    cases hs

theorem withoutFullStop_of_not_suffix (h : ¬['.'] <:+ (trimmed text).toList) :
    withoutFullStop text = trimmed text := by
  rw [toList_trimmed] at h
  rcases withoutFullStop_cases text with ⟨s, hs, -⟩ | ⟨-, heq⟩
  · exact absurd ⟨s, hs.symm⟩ h
  · exact heq

theorem withoutFullStop_append_fullStop (text : String) :
    withoutFullStop (text ++ ".") = trimmed text := by
  have htrim : trim (text ++ ".").toList = trimStart text.toList ++ ['.'] := by
    rw [String.toList_append]
    exact trim_append_fullStop text.toList
  rcases withoutFullStop_cases (text ++ ".") with ⟨s, hs, heq⟩ | ⟨hnot, -⟩
  · obtain rfl : trimStart text.toList = s := List.append_cancel_right (htrim.symm.trans hs)
    rw [heq, trim_trimStart, trimmed]
  · exact absurd ⟨_, htrim.symm⟩ hnot

/-- Only the trimmed text counts. -/
theorem withoutFullStop_congr (h : trim text.toList = trim other.toList) :
    withoutFullStop text = withoutFullStop other := by
  unfold withoutFullStop
  rw [h]

theorem isLabelOf_withoutFullStop (text : String) : IsLabelOf (withoutFullStop text) text := by
  rcases withoutFullStop_cases text with ⟨s, hs, heq⟩ | ⟨-, heq⟩
  · refine ⟨?_, .inr ?_⟩
    · rw [heq, String.toList_ofList]
      exact isTrimmed_trim s
    · -- what stands before the full stop begins as the trimmed text does
      have hstart : ∀ c ∈ s.head?, isBlank c = false := by
        intro c hc
        refine (isTrimmed_trim text.toList).start c ?_
        rw [hs, List.head?_append, hc]
        rfl
      obtain ⟨blanks, hblanks, hall⟩ := exists_blanks_of_start hstart
      refine ⟨.ofList blanks, by simpa using hall, ?_⟩
      rw [← String.toList_inj, toList_trimmed, hs, heq]
      conv_lhs => rw [hblanks]
      simp
  · rw [heq]
    exact ⟨isTrimmed_trimmed text, .inl rfl⟩

/-! ## Lines of dialogue -/

/-- In a speech of some remarks a line of dialogue is addressed to somebody. Both speaker and listener
are given by the names that are written. -/
inductive Vocabulary.Speaks (v : Vocabulary) (remarks : List Remark) :
    String → Dialogue → String → Prop where
  | line {record : Record (List String)} {speaker line : String} {lines : List String}
    {d : Dialogue} {a : Addressee} : .speech record ∈ v.performed remarks →
    (speaker, lines) ∈ record.entries → line ∈ lines → Line.ofText v line = .dialogue d →
    a ∈ d.listeners → Speaks v remarks speaker d a.name

/-- The scene after the first `i` ones is performed, and it has the given remarks. -/
def Script.HasScene (v : Vocabulary) (script : Script) (i : Nat) (remarks : List Remark) : Prop :=
  ∃ entries scene, script.writtenAct? v = some entries ∧
    (v.due entries)[i]? = some (.scene scene) ∧
    scene.get? (v.sceneLabel (i + 1)) = some remarks

/-- An edge stands for a line of dialogue: in some scene its source speaks the line, its target is one
of those it is addressed to, and its tags are those of the line. -/
def Script.Says (v : Vocabulary) (script : Script) (d : Dialogue) (e : Edge) : Prop :=
  ∃ i remarks speaker listener c c', script.HasScene v i remarks ∧
    v.Speaks remarks speaker d listener ∧
    (script.writtenRoster v).find? speaker = some c ∧
    (script.writtenRoster v).find? listener = some c' ∧
    e.source = localId (v.sceneId 1 (i + 1)) c.name ∧
    e.target = localId (v.sceneId 1 (i + 1)) c'.name ∧ e.tags = d.tags

/-! ## Finding the line of an event -/

section Split

variable {α β : Type}

/-- What elements give is given by one of them, after what those before it give. -/
theorem split_flatMap {f : α → List β} {before after : List β} {y : β} : ∀ {xs : List α},
    xs.flatMap f = before ++ y :: after → ∃ past x rest front back,
      xs = past ++ x :: rest ∧ f x = front ++ y :: back ∧ before = past.flatMap f ++ front
  | [], h => by simp at h
  | x :: xs, h => by
    rw [List.flatMap_cons] at h
    rcases split_append h with ⟨rest, hx⟩ | ⟨between, rfl, hxs⟩
    · exact ⟨[], x, xs, before, rest, rfl, hx, rfl⟩
    · obtain ⟨past, z, rest, front, back, rfl, hz, rfl⟩ := split_flatMap hxs
      exact ⟨x :: past, z, rest, front, back, rfl, hz, by simp⟩

theorem flatMap_of_split {f : α → List β} {front back : List β} {x : α} {y : β}
    (past rest : List α) (h : f x = front ++ y :: back) : (past ++ x :: rest).flatMap f
      = past.flatMap f ++ front ++ y :: (back ++ rest.flatMap f) := by
  simp [h]

end Split

namespace Event

variable {α : Type}

/-- The floor stays with a speaker as long as nobody else speaks. -/
theorem floor?_of_speech (before : List (Event α)) (c : α) {after : List (Event α)}
    (h : ∀ e ∈ after, e.speaker? = none) : floor? (before ++ .speech c :: after) = some c := by
  have hspeaker : (Event.speech c).speaker? = some c := rfl
  rw [floor?, List.filterMap_append, List.filterMap_cons_some hspeaker,
    List.filterMap_eq_nil_iff.mpr h, List.getLast?_append, List.getLast?_singleton, Option.some_or]

/-- Those who speak are the characters of the roster whose names are written. -/
theorem speakers_of_resolve {r : Roster} : ∀ {written : List (Event String)}
    {events : List (Event Character)}, written.map (Event.resolve r) = events.map some →
    (written.filterMap (·.speaker?)).map r.find? = (events.filterMap (·.speaker?)).map some
  | [], events, h => by
    obtain rfl : events = [] := by simpa using h.symm
    rfl
  | w :: written, [], h => by simp at h
  | w :: written, e :: events, h => by
    rw [List.map_cons, List.map_cons, List.cons.injEq] at h
    have hrest := speakers_of_resolve h.2
    cases w with
    | direction text =>
      obtain rfl : .direction text = e := by simpa [Event.resolve] using h.1
      exact hrest
    | speech name =>
      obtain ⟨c, hc, rfl⟩ := Option.map_eq_some_iff.mp h.1
      show r.find? name :: (written.filterMap (·.speaker?)).map r.find?
        = some c :: (events.filterMap (·.speaker?)).map some
      rw [hc, hrest]
    | address name text tags =>
      obtain ⟨c, hc, rfl⟩ := Option.map_eq_some_iff.mp h.1
      exact hrest

/-- The floor is with the character of the roster whose name is written. -/
theorem floor?_of_resolve {r : Roster} {written : List (Event String)}
    {events : List (Event Character)} (h : written.map (Event.resolve r) = events.map some) :
    (floor? written).map r.find? = (floor? events).map some := by
  have hlast := congrArg List.getLast? (speakers_of_resolve h)
  rwa [List.getLast?_map, List.getLast?_map] at hlast

end Event

namespace Vocabulary

variable {v : Vocabulary} {remarks : List Remark} {past rest : List (Event String)}
  {name text line : String} {tags : List String}

theorem dialogue_of_mem_lineEvents (h : .address name text tags ∈ v.lineEvents line) :
    ∃ d, Line.ofText v line = .dialogue d ∧ (∃ a ∈ d.listeners, a.name = name) ∧
      d.text = text ∧ d.tags = tags := by
  cases hline : Line.ofText v line with
  | direction text => simp [lineEvents, hline] at h
  | dialogue d =>
    rw [lineEvents_of_dialogue hline] at h
    obtain ⟨a, ha, heq⟩ := List.mem_map.mp h
    cases heq
    exact ⟨d, rfl, ⟨a, ha, rfl⟩, rfl, rfl⟩

/-- Nobody takes the floor by lines, or by the first events of another one. -/
theorem silent_of_lines {spoken : List String} {front back : List (Event String)}
    (h : v.lineEvents line = front ++ back) :
    ∀ e ∈ spoken.flatMap v.lineEvents ++ front, e.speaker? = none := by
  intro e he
  rcases List.mem_append.mp he with he | he
  · obtain ⟨other, -, hother⟩ := List.mem_flatMap.mp he
    exact speaker?_of_mem_lineEvents hother
  · have hmem : e ∈ v.lineEvents line := by
      rw [h]
      exact List.mem_append_left _ he
    exact speaker?_of_mem_lineEvents hmem

/-- An address in a scene comes by a line of whoever has the floor. -/
theorem speaks_of_address (h : v.sceneEvents remarks = past ++ .address name text tags :: rest) :
    ∃ speaker d, floor? past = some speaker ∧ v.Speaks remarks speaker d name ∧
      d.text = text ∧ d.tags = tags := by
  obtain ⟨before, remark, after, front, back, hremarks, hremark, rfl⟩ := split_flatMap h
  have hmem : remark ∈ v.performed remarks := by
    rw [hremarks]
    simp
  cases remark with
  | direction text' =>
    have hone : Event.address name text tags ∈ v.remarkEvents (.direction text') := by
      rw [hremark]
      simp
    simp [remarkEvents] at hone
  | speech record =>
    obtain ⟨before', ⟨speaker, lines⟩, after', front', back', hentries, hentry, rfl⟩ :=
      split_flatMap hremark
    cases front' with
    | nil => cases (List.cons.inj hentry).1
    | cons w front' =>
      obtain ⟨rfl, hlines⟩ := List.cons.inj hentry
      obtain ⟨spoken, line, unspoken, front, back, rfl, hline, rfl⟩ := split_flatMap hlines
      have haddress : Event.address name text tags ∈ v.lineEvents line := by
        rw [hline]
        simp
      have hspeech : (speaker, spoken ++ line :: unspoken) ∈ record.entries := by
        rw [hentries]
        simp
      obtain ⟨d, hd, ⟨a, ha, rfl⟩, htext, htags⟩ := dialogue_of_mem_lineEvents haddress
      refine ⟨speaker, d, ?_, .line hmem hspeech (by simp) hd ha, htext, htags⟩
      -- since the speech began there have only been lines
      rw [← List.append_assoc]
      exact floor?_of_speech _ speaker (silent_of_lines hline)

/-- A line of dialogue gives an address to each of those it is addressed to, while its speaker has
the floor. -/
theorem address_of_speaks {speaker : String} {d : Dialogue} (h : v.Speaks remarks speaker d name) :
    ∃ past rest, v.sceneEvents remarks = past ++ .address name d.text d.tags :: rest ∧
      floor? past = some speaker := by
  obtain @⟨record, _, line, _, d, a, hrecord, hentry, hline, hd, ha⟩ := h
  have haddress : .address a.name d.text d.tags ∈ v.lineEvents line := by
    rw [lineEvents_of_dialogue hd]
    exact List.mem_map_of_mem ha
  obtain ⟨front, back, hevents⟩ := List.append_of_mem haddress
  obtain ⟨spoken, unspoken, rfl⟩ := List.append_of_mem hline
  obtain ⟨entries, entries', hentries⟩ := List.append_of_mem hentry
  obtain ⟨before, after, hperformed⟩ := List.append_of_mem hrecord
  have hspeech : Event.speech speaker :: (spoken ++ line :: unspoken).flatMap v.lineEvents
      = .speech speaker :: (spoken.flatMap v.lineEvents ++ front) ++
        .address a.name d.text d.tags :: (back ++ unspoken.flatMap v.lineEvents) := by
    rw [flatMap_of_split spoken unspoken hevents, List.cons_append]
  have hremark : v.remarkEvents (.speech record) = _ :=
    (congrArg _ hentries).trans
      (flatMap_of_split (x := (speaker, spoken ++ line :: unspoken)) entries entries' hspeech)
  have hscene : v.sceneEvents remarks = _ :=
    (congrArg _ hperformed).trans (flatMap_of_split before after hremark)
  refine ⟨_, _, hscene, ?_⟩
  rw [← List.append_assoc]
  exact floor?_of_speech _ speaker (silent_of_lines hevents)

/-- A character of the roster is addressed by a line of the one who has the floor. -/
theorem speaks_of_staged {r : Roster} {past rest : List (Event Character)} {c c' : Character}
    (h : v.stagedScene r remarks = some (past ++ .address c' text tags :: rest))
    (hfloor : floor? past = some c) : ∃ speaker name d, v.Speaks remarks speaker d name ∧
      r.find? speaker = some c ∧ r.find? name = some c' ∧ d.text = text ∧ d.tags = tags := by
  obtain ⟨-, hread⟩ := Option.ite_none_right_eq_some.mp h
  -- the event is read off one that is written, and what comes before it as well
  obtain ⟨wpast, wrest, hwritten, hpast, hrest⟩ :=
    List.map_eq_append_iff.mp ((mapM_eq_some_iff.mp hread).trans List.map_append)
  obtain ⟨w, wrest, rfl, hw, -⟩ := List.map_eq_cons_iff.mp hrest
  cases w with
  | direction text' => cases hw
  | speech name =>
    obtain ⟨other, -, hother⟩ := Option.map_eq_some_iff.mp hw
    cases hother
  | address name text' tags' =>
    obtain ⟨other, hname, hother⟩ := Option.map_eq_some_iff.mp hw
    cases hother
    obtain ⟨speaker, d, hspeaker, hspeaks, htext, htags⟩ := speaks_of_address hwritten
    have hfind := floor?_of_resolve hpast
    rw [hspeaker, hfloor, Option.map_some, Option.map_some, Option.some.injEq] at hfind
    exact ⟨speaker, name, d, hspeaks, hfind, hname, htext, htags⟩

/-- A line of dialogue between two characters of the roster is addressed by one to the other. -/
theorem staged_of_speaks {r : Roster} {events : List (Event Character)} {speaker : String}
    {d : Dialogue} {c c' : Character} (h : v.stagedScene r remarks = some events)
    (hspeaks : v.Speaks remarks speaker d name) (hc : r.find? speaker = some c)
    (hc' : r.find? name = some c') : ∃ past rest,
      events = past ++ .address c' d.text d.tags :: rest ∧ floor? past = some c := by
  obtain ⟨-, hread⟩ := Option.ite_none_right_eq_some.mp h
  obtain ⟨wpast, wrest, hwritten, hspeaker⟩ := address_of_speaks hspeaks
  have hresolved := mapM_eq_some_iff.mp hread
  rw [hwritten, List.map_append, List.map_cons, Event.resolve, hc', Option.map_some] at hresolved
  obtain ⟨past, rest, rfl, hpast, hrest⟩ := List.map_eq_append_iff.mp hresolved.symm
  obtain ⟨event, rest, rfl, hevent, -⟩ := List.map_eq_cons_iff.mp hrest
  cases hevent
  have hfind := floor?_of_resolve hpast.symm
  rw [hspeaker, Option.map_some, hc] at hfind
  obtain ⟨other, hother, hsame⟩ := Option.map_eq_some_iff.mp hfind.symm
  cases hsame
  exact ⟨past, rest, rfl, hother⟩

end Vocabulary

/-! ## Edges of a play -/

namespace Script

variable {v : Vocabulary} {script : Script} {play : Play}

/-- Each scene is read off the entry of the act that has its number. -/
theorem getElem?_staged {scenes : List (List (Event Character))}
    (h : script.staged v = some scenes) : ∃ entries, script.writtenAct? v = some entries ∧
      ∀ i, (v.due entries)[i]?.map (v.stagedEntry (script.writtenRoster v) (i + 1))
        = scenes[i]?.map some := by
  obtain ⟨entries, hact, hread⟩ := Option.bind_eq_some_iff.mp h
  refine ⟨entries, hact, fun i => ?_⟩
  have hentries := congrArg (·[i]?) (mapM_eq_some_iff.mp hread)
  simpa [List.getElem?_map, List.getElem?_zipIdx, Option.map_map, Function.comp_def,
    Nat.add_comm] using hentries

/-- The events of a scene are read off its remarks. -/
theorem exists_hasScene {scenes : List (List (Event Character))} {events : List (Event Character)}
    {i : Nat} (h : script.staged v = some scenes) (hget : scenes[i]? = some events) :
    ∃ remarks, script.HasScene v i remarks ∧
      v.stagedScene (script.writtenRoster v) remarks = some events := by
  obtain ⟨entries, hact, hentries⟩ := getElem?_staged h
  have hread := hentries i
  rw [hget, Option.map_some] at hread
  obtain ⟨entry, hentry, hstaged⟩ := Option.map_eq_some_iff.mp hread
  obtain ⟨scene, remarks, rfl, hremarks, hevents⟩ := Vocabulary.stagedEntry_eq_some_iff.mp hstaged
  exact ⟨remarks, ⟨entries, scene, hact, hentry, hremarks⟩, hevents⟩

theorem HasScene.exists_events {scenes : List (List (Event Character))} {remarks : List Remark}
    {i : Nat} (hscene : script.HasScene v i remarks) (h : script.staged v = some scenes) :
    ∃ events, scenes[i]? = some events ∧
      v.stagedScene (script.writtenRoster v) remarks = some events := by
  obtain ⟨entries, hact, hentries⟩ := getElem?_staged h
  obtain ⟨found, scene, hfound, hentry, hremarks⟩ := hscene
  obtain rfl : entries = found := by simpa using hact.symm.trans hfound
  have hread := hentries i
  rw [hentry, Option.map_some] at hread
  obtain ⟨events, hevents, hstaged⟩ := Option.map_eq_some_iff.mp hread.symm
  obtain ⟨scene', remarks', hscene', hremarks', hstaged'⟩ :=
    Vocabulary.stagedEntry_eq_some_iff.mp hstaged.symm
  cases hscene'
  obtain rfl : remarks = remarks' := by simpa using hremarks.symm.trans hremarks'
  exact ⟨events, hevents, hstaged'⟩

/-- An edge is bare, or it stands for a line of dialogue. -/
theorem says_of_perform (h : (script.perform v).outcome = .ok play) {e : Edge}
    (he : e ∈ play.graph.edges) : e.isBare ∨
      ∃ d, script.Says v d e ∧ e.label = withoutFullStop d.text := by
  obtain ⟨-, scenes, hscenes, -, rfl⟩ := perform_eq_ok_iff.mp h
  obtain ⟨i, events, hget, hmem⟩ := Vocabulary.mem_edges_outline.mp he
  obtain ⟨past, event, rest, rfl, hedge⟩ := mem_inTurn.mp hmem
  cases hfloor : floor? past with
  | none =>
    rw [Event.edges, hfloor] at hedge
    cases hedge
  | some c =>
    rw [edges_of_floor? hfloor] at hedge
    cases event with
    | direction text =>
      obtain rfl := List.mem_singleton.mp hedge
      exact .inl rfl
    | speech c' =>
      rw [edgesFrom] at hedge
      split at hedge
      · cases hedge
      · obtain rfl := List.mem_singleton.mp hedge
        exact .inl rfl
    | address c' text tags =>
      obtain rfl := List.mem_singleton.mp hedge
      obtain ⟨remarks, hscene, hstaged⟩ := exists_hasScene hscenes hget
      obtain ⟨speaker, name, d, hspeaks, hc, hc', rfl, rfl⟩ :=
        Vocabulary.speaks_of_staged hstaged hfloor
      exact .inr ⟨d, ⟨i, remarks, speaker, name, c, c', hscene, hspeaks, hc, hc', rfl, rfl, rfl⟩,
        rfl⟩

/-- A line of dialogue gives an edge to each of those it is addressed to. -/
theorem mem_edges_of_says (h : (script.perform v).outcome = .ok play) {d : Dialogue} {e : Edge}
    (hline : script.Says v d e) :
    { e with label := withoutFullStop d.text } ∈ play.graph.edges := by
  obtain ⟨-, scenes, hscenes, -, rfl⟩ := perform_eq_ok_iff.mp h
  obtain ⟨i, remarks, speaker, name, c, c', hscene, hspeaks, hc, hc', hsource, htarget, htags⟩ :=
    hline
  obtain ⟨events, hget, hstaged⟩ := hscene.exists_events hscenes
  obtain ⟨past, rest, rfl, hfloor⟩ := Vocabulary.staged_of_speaks hstaged hspeaks hc hc'
  refine Vocabulary.mem_edges_outline.mpr ⟨i, _, hget, mem_inTurn.mpr ⟨past, _, rest, rfl, ?_⟩⟩
  rw [edges_of_floor? hfloor, edgesFrom, List.mem_singleton, hsource, htarget, htags]

end Script

/-! ## All labels -/

theorem isTrimmed_label_of_isBare {e : Edge} (h : e.isBare) : IsTrimmed e.label.toList := by
  have hlabel : e.label = "" := by
    rw [Edge.isBare, Bool.and_eq_true] at h
    exact String.isEmpty_iff.mp h.1
  rw [hlabel]
  exact isTrimmed_nil

/-- **Labels keep their texts.** A label is its text but for the blanks around it and one full stop at
its end with the blanks before that. All edges that have come about on a stage, in whatever order it
was operated, have their labels like this from the texts of its operations, and the edges of a play
from its lines of dialogue, if they are not bare. No line is left out: each one has its edges. -/
theorem labels_of_texts :
    (∀ text : String, IsLabelOf (withoutFullStop text) text ∧
      withoutFullStop (text ++ ".") = trimmed text ∧
      (¬['.'] <:+ (trimmed text).toList → withoutFullStop text = trimmed text) ∧
      ∀ before after : String, (∀ c ∈ before.toList, isBlank c) → (∀ c ∈ after.toList, isBlank c) →
        withoutFullStop (before ++ text ++ after) = withoutFullStop text) ∧
    (∀ (v : Vocabulary) (ops : List Operation), ∀ e ∈ (Stage.after v ops).graph.edges,
      Sometime (fun before op => ∃ speaker target text tags,
        op = .address speaker target text tags ∧
        e = (Stage.after v before).edgeTo speaker target text tags ∧ IsLabelOf e.label text) ops) ∧
    ∀ (v : Vocabulary) (script : Script) (play : Play), (script.perform v).outcome = .ok play →
      (∀ e ∈ play.graph.edges, IsTrimmed e.label.toList ∧
        (e.isBare ∨ ∃ d, script.Says v d e ∧ IsLabelOf e.label d.text)) ∧
      ∀ d e, script.Says v d e →
        { e with label := withoutFullStop d.text } ∈ play.graph.edges := by
  refine ⟨fun text => ⟨isLabelOf_withoutFullStop text, withoutFullStop_append_fullStop text,
    withoutFullStop_of_not_suffix, fun before after hbefore hafter => ?_⟩,
    fun v ops e he => ?_, fun v script play hplay => ⟨fun e he => ?_, fun d e hline =>
      Script.mem_edges_of_says hplay hline⟩⟩
  · refine withoutFullStop_congr ?_
    rw [String.toList_append, String.toList_append]
    exact trim_between hbefore hafter
  · obtain ⟨-, ⟨before, op, rest, rfl, -, speaker, target, text, tags, -, rfl, -, rfl⟩, -⟩ :=
      Stage.within_of_mem_edges he
    exact ⟨before, _, rest, rfl, speaker, target, text, tags, rfl, rfl,
      isLabelOf_withoutFullStop text⟩
  · rcases Script.says_of_perform hplay he with hbare | ⟨d, hline, hlabel⟩
    · exact ⟨isTrimmed_label_of_isBare hbare, .inl hbare⟩
    · have hkept : IsLabelOf e.label d.text := hlabel ▸ isLabelOf_withoutFullStop d.text
      exact ⟨hkept.isTrimmed, .inr ⟨d, hline, hkept⟩⟩

/-- A script with full stops of all kinds. -/
def Script.hush : Script where
  characters := [.single "Ann" "A guest.", .single "Bob" "A host."]
  plot := [.single "ACT 1" [.scene (.single "SCENE 1"
    [.speech (.single "Ann" ["(To Bob) Wait . . .", "[Knocks.]", "(To Bob[urgent])Now!\t"]),
      .speech (.single "Bob" ["(To ANN).."])])]]

theorem labels_of_texts_hush : ∃ play, (Script.hush.perform {}).outcome = .ok play ∧
    play.graph.edges.map (·.label) = ["Wait . .", "", "Now!", "."] ∧
    (∀ e ∈ play.graph.edges, IsTrimmed e.label.toList ∧
      (e.isBare ∨ ∃ d, Script.hush.Says {} d e ∧ IsLabelOf e.label d.text)) ∧
    ∀ d e, Script.hush.Says {} d e →
      { e with label := withoutFullStop d.text } ∈ play.graph.edges :=
  ⟨_, rfl, rfl, labels_of_texts.2.2 {} Script.hush _ rfl⟩

end Dramaturgy
