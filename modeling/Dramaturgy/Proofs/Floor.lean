import Dramaturgy.Proofs.Contents
import Mathlib.Logic.Relation

/-!
# Where the floor leads

Whoever comes on stage does so at the hands of somebody who is there: the one who has the floor
hands it over, addresses someone, or points at a direction. So in a scene everything but the
directions before the first speech is reached from the first speaker, and these directions are what
no edge leads to (`Graph.LedBy`). A scene without a speech has neither characters nor edges
(`Graph.Deserted`). `floor_of_perform` says so of every play.

The invariant is that everyone on stage is reached (`leads_of_mem_names`). It holds because nobody
is addressed before somebody has the floor (`Heard`), which the cues of a scene see to.
-/

namespace Dramaturgy

open Event

/-! ## Graphs -/

/-- Whether edges lead from one id to another, in any number of steps. -/
def Edge.Leads (edges : List Edge) : String → String → Prop :=
  Relation.ReflTransGen fun a b => ∃ e ∈ edges, e.source = a ∧ e.target = b

namespace Edge

variable {edges edges' : List Edge} {a b c : String}

theorem Leads.mono (hsub : edges ⊆ edges') (h : Leads edges a b) : Leads edges' a b :=
  Relation.ReflTransGen.mono (fun _ _ ⟨e, he, hab⟩ => ⟨e, hsub he, hab⟩) _ _ h

theorem Leads.tail (h : Leads edges a b) (he : ∃ e ∈ edges, e.source = b ∧ e.target = c) :
    Leads edges a c :=
  Relation.ReflTransGen.tail h he

end Edge

namespace Graph

/-- There are no characters in a scene, and no edge touches it. -/
structure Deserted (g : Graph) (scene : String) : Prop where
  characters : ∀ n ∈ g.nodes, n.parent = some scene → n.kind ≠ .character
  edges : ∀ e ∈ g.edges, ∀ n ∈ g.nodes, n.id = scene ∨ n.parent = some scene →
    e.source ≠ n.id ∧ e.target ≠ n.id

/-- A scene is led by a character: everything in it is reached from there, apart from some opening
directions, which are those that nothing leads to. -/
structure LedBy (g : Graph) (scene : String) (first : Node) (opening : List Node) : Prop where
  mem : first ∈ g.nodes
  characters : ∀ n ∈ g.nodes, n.parent = some scene → n.kind = .character →
    Edge.Leads g.edges first.id n.id
  directions : ∀ n ∈ g.nodes, n.parent = some scene → n.kind = .direction → n ∉ opening →
    Edge.Leads g.edges first.id n.id
  sources : ∀ n ∈ g.nodes, n.parent = some scene → n.kind = .direction →
    ((∀ e ∈ g.edges, e.target ≠ n.id) ↔ n ∈ opening)

end Graph

namespace Event

/-! ## Nobody is addressed by nobody -/

section Floor

variable {α : Type} {events past rest before after xs ys : List (Event α)} {e : Event α} {c : α}

theorem floor?_eq_none_iff : floor? events = none ↔ ∀ e ∈ events, e.speaker? = none := by
  simp [floor?]

/-- Whoever is addressed is addressed by someone. -/
def Heard (events : List (Event α)) : Prop :=
  ∀ past e rest, events = past ++ e :: rest → floor? past = none → e.who? = e.speaker?

theorem heard_nil : Heard ([] : List (Event α)) := by
  intro past e rest h
  simp at h

theorem Heard.of_append (h : Heard (xs ++ ys)) : Heard xs := by
  intro past e rest hxs
  exact h past e (rest ++ ys) (by simp [hxs])

theorem Heard.append_singleton (h : Heard xs) (he : floor? xs = none → e.who? = e.speaker?) :
    Heard (xs ++ [e]) := by
  intro past d rest heq
  rcases List.eq_nil_or_concat rest with rfl | ⟨rest', w, rfl⟩
  · obtain ⟨rfl, hd⟩ := List.append_inj' heq rfl
    cases hd
    exact he
  · rw [List.concat_eq_append, ← List.cons_append, ← List.append_assoc] at heq
    exact h past d rest' (List.append_inj' heq rfl).1

/-- Before the first speech nobody is on stage. -/
theorem Heard.onstage_eq_nil (h : Heard events) (hf : floor? events = none) :
    onstage events = [] := by
  refine List.filterMap_eq_nil_iff.mpr fun e he => ?_
  obtain ⟨past, rest, rfl⟩ := List.append_of_mem he
  have hspeaker := floor?_eq_none_iff.mp hf
  rw [h past e rest rfl (floor?_eq_none_iff.mpr fun d hd => hspeaker d (by simp [hd]))]
  exact hspeaker e he

/-- An event comes before the first speech, is that speech, or comes after it. -/
theorem cases_at_speech (h : past ++ e :: rest = before ++ .speech c :: after)
    (hb : floor? before = none) :
    (floor? past = none ∧ ((∃ mid, before = past ++ e :: mid) ∨ past = before ∧ e = .speech c)) ∨
      ∃ mid, past = before ++ .speech c :: mid := by
  rcases List.append_eq_append_iff.mp h with ⟨mid, rfl, hmid⟩ | ⟨mid, rfl, hmid⟩
  · refine Or.inl ⟨?_, ?_⟩
    · exact floor?_eq_none_iff.mpr fun d hd => floor?_eq_none_iff.mp hb d (by simp [hd])
    · cases mid with
      | nil => exact Or.inr ⟨(List.append_nil past).symm, (List.cons.inj hmid).1⟩
      | cons d mid =>
        obtain ⟨rfl, -⟩ := List.cons.inj hmid
        exact Or.inl ⟨mid, rfl⟩
  · cases mid with
    | nil =>
      rw [List.append_nil]
      exact Or.inl ⟨hb, Or.inr ⟨rfl, (List.cons.inj hmid).1.symm⟩⟩
    | cons d mid =>
      obtain ⟨rfl, -⟩ := List.cons.inj hmid
      exact Or.inr ⟨mid, rfl⟩

theorem exists_floor?_of_speech (xs ys : List (Event α)) (c : α) :
    ∃ speaker, floor? (xs ++ .speech c :: ys) = some speaker := by
  rw [← Option.isSome_iff_exists, Option.isSome_iff_ne_none]
  intro h
  have hspeaker := floor?_eq_none_iff.mp h (.speech c) (by simp)
  cases hspeaker

end Floor

end Event

theorem Enacts.heard {past : List (Event Character)} {cues : List Cue}
    {r : Option (List (Event Character))} (he : Enacts past cues r) (h : Heard past) :
    ∀ events, r = some events → Heard (past ++ events) := by
  induction he with
  | nil past =>
    rintro events ⟨⟩
    rwa [List.append_nil]
  | tell note _ ih => exact ih h
  | fail cues hf => exact nofun
  | @event past cue e cues r hp _ ih =>
    intro events hr
    obtain ⟨rest, hrest, rfl⟩ := Option.map_eq_some_iff.mp hr
    rw [List.append_cons]
    refine ih (h.append_singleton fun hnone => ?_) rest hrest
    cases hp with
    | direction text => rfl
    | speech c => rfl
    | address c text tags hf =>
      rw [hnone] at hf
      cases hf

/-- In the scenes of a script nobody is addressed by nobody. -/
theorem Script.heard_of_staged {v : Vocabulary} {script : Script}
    {scenes : List (List (Event Character))} (h : script.staged v = some scenes) :
    ∀ events ∈ scenes, Heard events := by
  intro events hmem
  obtain ⟨remarks, hscene⟩ := Script.exists_stagedScene h hmem
  exact (Vocabulary.enacts_remarkCues remarks []).heard heard_nil events hscene

namespace Event

/-! ## The floor in a scene -/

variable {scene : String} {events past rest before after : List (Event Character)}
  {e : Event Character} {c : Character} {name text : String} {n : Node} {d : Edge} {k : Nat}

theorem edges_of_floor? {speaker : Character} (hf : floor? past = some speaker) :
    e.edges scene past = e.edgesFrom scene past speaker := by
  rw [Event.edges, hf]

theorem edges_eq_nil (hf : floor? events = none) : inTurn (edges scene) events = [] := by
  rw [List.eq_nil_iff_forall_not_mem]
  intro d hd
  obtain ⟨past, e, rest, rfl, hmem⟩ := mem_inTurn.mp hd
  have hpast : floor? past = none :=
    floor?_eq_none_iff.mpr fun x hx => floor?_eq_none_iff.mp hf x (by simp [hx])
  rw [Event.edges, hpast] at hmem
  cases hmem

/-- Whoever comes on stage does so at the hands of the one who has the floor. -/
theorem exists_edge_of_entrance (scene : String) {speaker : Character}
    (hf : floor? past = some speaker) (he : e.who? = some c) (hnew : c.name ∉ names past) :
    ∃ d ∈ e.edges scene past, d.source = localId scene speaker.name ∧
      d.target = localId scene c.name := by
  rw [edges_of_floor? hf]
  cases e with
  | direction text => cases he
  | speech w =>
    obtain rfl : w = c := by simpa [who?] using he
    rw [edgesFrom, if_neg hnew]
    exact ⟨_, List.mem_singleton_self _, rfl, rfl⟩
  | address w text tags =>
    obtain rfl : w = c := by simpa [who?] using he
    exact ⟨_, List.mem_singleton_self _, rfl, rfl⟩

/-- From the first speaker one comes to everyone on stage. -/
theorem leads_of_mem_names (scene : String) (h : Heard before) (hb : floor? before = none) :
    ∀ {name : String}, name ∈ names (before ++ .speech c :: after) →
      Edge.Leads (inTurn (edges scene) (before ++ .speech c :: after))
        (localId scene c.name) (localId scene name) := by
  induction after using List.reverseRecOn with
  | nil =>
    intro name hname
    -- nobody has been on stage before
    obtain rfl : name = c.name := by simpa [names, h.onstage_eq_nil hb, who?] using hname
    exact .refl
  | append_singleton after e ih =>
    intro name hname
    rw [← List.cons_append, ← List.append_assoc] at hname ⊢
    rw [inTurn_append_singleton]
    have hold : ∀ {name : String}, name ∈ names (before ++ .speech c :: after) →
        Edge.Leads (inTurn (edges scene) (before ++ .speech c :: after)
          ++ e.edges scene (before ++ .speech c :: after))
          (localId scene c.name) (localId scene name) :=
      fun hname => (ih hname).mono (List.subset_append_left _ _)
    by_cases hnew : name ∈ names (before ++ .speech c :: after)
    · exact hold hnew
    · rw [names_append, List.mem_append] at hname
      obtain ⟨w, hw, rfl⟩ : ∃ w, e.who? = some w ∧ w.name = name := by
        simpa [Option.map_eq_some_iff] using hname.resolve_left hnew
      -- the floor is with someone on stage, who is reached by the induction hypothesis
      obtain ⟨speaker, hspeaker⟩ := exists_floor?_of_speech before after c
      obtain ⟨d, hd, hjoins⟩ := exists_edge_of_entrance scene hspeaker hw hnew
      exact (hold (mem_names_of_floor? hspeaker)).tail ⟨d, List.mem_append_right _ hd, hjoins⟩

/-- What an edge joins: whoever has the floor, and a direction or someone mentioned. -/
theorem mem_edges_cases (h : d ∈ inTurn (edges scene) events) :
    ∃ past e rest speaker, events = past ++ e :: rest ∧ floor? past = some speaker ∧
      d.source = localId scene speaker.name ∧
      ((∃ text, e = .direction text ∧
          d.target = localId scene (toString (directionCount past + 1))) ∨
        ∃ c, e.who? = some c ∧ d.target = localId scene c.name) := by
  obtain ⟨past, e, rest, hevents, hmem⟩ := mem_inTurn.mp h
  cases hf : floor? past with
  | none =>
    rw [Event.edges, hf] at hmem
    cases hmem
  | some speaker =>
    rw [edges_of_floor? hf] at hmem
    refine ⟨past, e, rest, speaker, hevents, hf, ?_⟩
    cases e with
    | direction text =>
      obtain rfl := List.mem_singleton.mp hmem
      exact ⟨rfl, Or.inl ⟨text, rfl, rfl⟩⟩
    | speech c =>
      rw [edgesFrom] at hmem
      split at hmem
      · cases hmem
      · obtain rfl := List.mem_singleton.mp hmem
        exact ⟨rfl, Or.inr ⟨c, rfl, rfl⟩⟩
    | address c text tags =>
      obtain rfl := List.mem_singleton.mp hmem
      exact ⟨rfl, Or.inr ⟨c, rfl, rfl⟩⟩

/-- Both ends of an edge are in the scene. -/
theorem ends_of_mem_edges (h : d ∈ inTurn (edges scene) events) :
    (∃ x, d.source = localId scene x) ∧ ∃ y, d.target = localId scene y := by
  obtain ⟨past, e, rest, speaker, -, -, hsource, htarget⟩ := mem_edges_cases h
  refine ⟨⟨_, hsource⟩, ?_⟩
  rcases htarget with ⟨text, -, htarget⟩ | ⟨c, -, htarget⟩
  · exact ⟨_, htarget⟩
  · exact ⟨_, htarget⟩

/-- A direction after the first speech is pointed at by someone on stage. -/
theorem exists_edge_of_direction (scene : String)
    (hevents : events = past ++ .direction text :: rest)
    (hpast : past = before ++ .speech c :: after) : ∃ name ∈ names events,
      ∃ d ∈ inTurn (edges scene) events, d.source = localId scene name ∧
        d.target = localId scene (toString (directionCount past + 1)) := by
  obtain ⟨speaker, hspeaker⟩ := exists_floor?_of_speech before after c
  rw [← hpast] at hspeaker
  refine ⟨speaker.name, ?_, ?_⟩
  · rw [hevents, names_append]
    exact List.mem_append_left _ (mem_names_of_floor? hspeaker)
  · refine ⟨{ source := localId scene speaker.name
              target := localId scene (toString (directionCount past + 1)) }, ?_, rfl, rfl⟩
    refine mem_inTurn.mpr ⟨past, _, rest, hevents, ?_⟩
    rw [edges_of_floor? hspeaker]
    exact List.mem_singleton_self _

/-- A direction is one of those before the first speech, or it comes after that. -/
theorem direction_cases (hb : floor? before = none)
    (h : past ++ .direction text :: rest = before ++ .speech c :: after) :
    (∃ mid, before = past ++ .direction text :: mid) ∨
      ∃ mid, past = before ++ .speech c :: mid := by
  rcases cases_at_speech h hb with ⟨-, hbefore | ⟨-, hspeech⟩⟩ | hafter
  · exact Or.inl hbefore
  · cases hspeech
  · exact Or.inr hafter

theorem number_le_of_mem (h : Node.ofDirection scene k text ∈ inTurn (nodes scene) events) :
    k ≤ directionCount events := by
  rcases mem_nodes_cases h with ⟨past, text', rest, hevents, heq⟩ | ⟨c, -, heq⟩
  · have hk := toString_inj.mp (localId_right_inj.mp (congrArg Node.id heq))
    have := directionCount_lt hevents
    omega
  · cases congrArg Node.kind heq

/-- No edge leads to a direction before the first speech. -/
theorem target_ne_of_opening (hu : Unclashed (before ++ .speech c :: after))
    (hb : floor? before = none) (hk : 1 ≤ k) (hlt : k ≤ directionCount before)
    (hd : d ∈ inTurn (edges scene) (before ++ .speech c :: after)) :
    d.target ≠ localId scene (toString k) := by
  intro htarget
  obtain ⟨past, e, rest, speaker, hevents, hspeaker, -, hcases⟩ := mem_edges_cases hd
  rcases hcases with ⟨text, rfl, hnumber⟩ | ⟨w, hw, hname⟩
  · -- whoever points at a direction has the floor, so it comes after the first speech
    rcases cases_at_speech hevents.symm hb with ⟨hnone, -⟩ | ⟨mid, rfl⟩
    · rw [hnone] at hspeaker
      cases hspeaker
    · have heq := toString_inj.mp (localId_right_inj.mp (hnumber.symm.trans htarget))
      rw [directionCount_append] at heq
      omega
  · -- someone would have the number of the direction for a name
    refine hu w.name ?_ k hk ?_ (localId_right_inj.mp (hname.symm.trans htarget))
    · rw [hevents]
      simp [hw]
    · rw [directionCount_append]
      omega

end Event

/-! ## Scenes of a play -/

namespace Vocabulary

variable {v : Vocabulary} {scenes : List (List (Event Character))}
  {events before after : List (Event Character)} {c : Character} {n : Node} {e : Edge}
  {name : String} {i : Nat}

theorem edges_subset_outline (h : scenes[i]? = some events) :
    inTurn (edges (v.sceneId 1 (i + 1))) events ⊆ (v.outline scenes).edges :=
  fun _ he => mem_edges_outline.mpr ⟨i, events, h, he⟩

/-- An edge that touches an id in a scene is one of that scene. -/
theorem mem_edges_of_id (h : scenes[i]? = some events) (he : e ∈ (v.outline scenes).edges)
    (hid : e.source = localId (v.sceneId 1 (i + 1)) name ∨
      e.target = localId (v.sceneId 1 (i + 1)) name) :
    e ∈ inTurn (edges (v.sceneId 1 (i + 1))) events := by
  obtain ⟨j, events', hget, hmem⟩ := mem_edges_outline.mp he
  obtain ⟨⟨x, hsource⟩, y, htarget⟩ := ends_of_mem_edges hmem
  have hscene : ∃ z, localId (v.sceneId 1 (j + 1)) z = localId (v.sceneId 1 (i + 1)) name := by
    rcases hid with hid | hid
    · exact ⟨x, hsource.symm.trans hid⟩
    · exact ⟨y, htarget.symm.trans hid⟩
  obtain ⟨z, hz⟩ := hscene
  obtain ⟨⟨-, hj⟩, -⟩ := localId_inj.mp hz
  obtain rfl : j = i := by omega
  rw [h] at hget
  cases hget
  exact hmem

/-- The nodes in a scene are those of its events. -/
theorem mem_nodes_of_parent (h : scenes[i]? = some events) (hn : n ∈ (v.outline scenes).nodes)
    (hp : n.parent = some (v.sceneId 1 (i + 1))) :
    n ∈ inTurn (nodes (v.sceneId 1 (i + 1))) events := by
  rw [← filter_parent h]
  exact List.mem_filter.mpr ⟨hn, by simpa using hp⟩

/-- A scene without a speech is deserted. -/
theorem deserted (h : scenes[i]? = some events) (hheard : Heard events)
    (hf : floor? events = none) : (v.outline scenes).Deserted (v.sceneId 1 (i + 1)) where
  characters n hn hp hk := by
    rcases mem_nodes_cases (mem_nodes_of_parent h hn hp) with
      ⟨past, text, rest, -, rfl⟩ | ⟨c, hc, -⟩
    · cases hk
    · rw [hheard.onstage_eq_nil hf] at hc
      cases hc
  edges e he n hn hscene := by
    rcases hscene with hscene | hp
    · -- the ends of an edge are in scenes
      obtain ⟨j, events', -, hmem⟩ := mem_edges_outline.mp he
      obtain ⟨⟨x, hsource⟩, y, htarget⟩ := ends_of_mem_edges hmem
      rw [hscene, hsource, htarget]
      exact ⟨localId_ne_sceneId, localId_ne_sceneId⟩
    · -- an edge at a node of the scene would be an edge of the scene, which has none
      obtain ⟨⟨name, hname⟩, -⟩ := id_of_mem_nodes (mem_nodes_of_parent h hn hp)
      have hnone : e.source = n.id ∨ e.target = n.id → False := by
        intro hid
        rw [hname] at hid
        have hmem := mem_edges_of_id h he hid
        rw [edges_eq_nil hf] at hmem
        cases hmem
      exact ⟨fun hid => hnone (Or.inl hid), fun hid => hnone (Or.inr hid)⟩

/-- A scene with a speech is led by the first speaker. -/
theorem ledBy (h : scenes[i]? = some (before ++ .speech c :: after))
    (hheard : Heard (before ++ .speech c :: after)) (hu : Unclashed (before ++ .speech c :: after))
    (hb : floor? before = none) :
    (v.outline scenes).LedBy (v.sceneId 1 (i + 1)) (.ofCharacter (v.sceneId 1 (i + 1)) c)
      (inTurn (nodes (v.sceneId 1 (i + 1))) before) where
  mem := by
    refine mem_nodes_outline.mpr ⟨i, _, h, List.mem_cons_of_mem _ ?_⟩
    refine mem_inTurn.mpr ⟨before, .speech c, after, rfl, ?_⟩
    simp [nodes, entrance, names, hheard.of_append.onstage_eq_nil hb]
  characters n hn hp hk := by
    rcases mem_nodes_cases (mem_nodes_of_parent h hn hp) with
      ⟨past, text, rest, -, rfl⟩ | ⟨d, hd, rfl⟩
    · cases hk
    · have hleads := leads_of_mem_names (v.sceneId 1 (i + 1)) hheard.of_append hb
        (List.mem_map_of_mem (f := (·.name)) hd)
      exact hleads.mono (edges_subset_outline h)
  directions n hn hp hk hopening := by
    rcases mem_nodes_cases (mem_nodes_of_parent h hn hp) with
      ⟨past, text, rest, hevents, rfl⟩ | ⟨d, -, rfl⟩
    · rcases direction_cases hb hevents.symm with ⟨mid, hbefore⟩ | ⟨mid, hpast⟩
      · exact absurd (ofDirection_mem _ hbefore) hopening
      · obtain ⟨name, hname, hedge⟩ := exists_edge_of_direction (v.sceneId 1 (i + 1)) hevents hpast
        have hleads := (leads_of_mem_names _ hheard.of_append hb hname).tail hedge
        exact hleads.mono (edges_subset_outline h)
    · cases hk
  sources n hn hp hk := by
    rcases mem_nodes_cases (mem_nodes_of_parent h hn hp) with
      ⟨past, text, rest, hevents, rfl⟩ | ⟨d, -, rfl⟩
    · constructor
      · intro hfree
        rcases direction_cases hb hevents.symm with ⟨mid, hbefore⟩ | ⟨mid, hpast⟩
        · exact ofDirection_mem _ hbefore
        · obtain ⟨name, -, d, hd, -, htarget⟩ :=
            exists_edge_of_direction (v.sceneId 1 (i + 1)) hevents hpast
          exact absurd htarget (hfree d (edges_subset_outline h hd))
      · intro hopening d hd htarget
        have hk := number_le_of_mem hopening
        exact target_ne_of_opening hu hb (by omega) hk
          (mem_edges_of_id h hd (Or.inr htarget)) htarget
    · cases hk

end Vocabulary

namespace Script

variable {v : Vocabulary} {script : Script} {play : Play}

/-- **Where the floor leads.** A scene without a speech is deserted. Any other scene is led by its
first speaker, and the opening directions are those before the first speech. -/
theorem floor_of_perform (h : (script.perform v).outcome = .ok play) :
    ∃ scenes, script.staged v = some scenes ∧ ∀ i events, scenes[i]? = some events →
      ((∀ e ∈ events, e.speaker? = none) → play.graph.Deserted (v.sceneId 1 (i + 1))) ∧
      ∀ before c after, events = before ++ .speech c :: after → (∀ e ∈ before, e.speaker? = none) →
        play.graph.LedBy (v.sceneId 1 (i + 1)) (.ofCharacter (v.sceneId 1 (i + 1)) c)
          (inTurn (Event.nodes (v.sceneId 1 (i + 1))) before) := by
  obtain ⟨-, scenes, hscenes, hus, rfl⟩ := perform_eq_ok_iff.mp h
  refine ⟨scenes, hscenes, fun i events hget => ?_⟩
  have hmem := List.mem_of_getElem? hget
  have hheard := heard_of_staged hscenes events hmem
  refine ⟨fun hnone => ?_, ?_⟩
  · exact Vocabulary.deserted hget hheard (floor?_eq_none_iff.mpr hnone)
  · rintro before c after rfl hbefore
    exact Vocabulary.ledBy hget hheard (hus _ hmem) (floor?_eq_none_iff.mpr hbefore)

theorem floor_of_perform_errand : ∃ play, (errand.perform {}).outcome = .ok play ∧
    play.graph = errandGraph ∧ errand.staged {} = some errandEvents ∧
    play.graph.LedBy "ACT 1.SCENE 1"
      { id := "ACT 1.SCENE 1.Alice", kind := .character, label := "Alice", tags := ["User"]
        parent := "ACT 1.SCENE 1" }
      [{ id := "ACT 1.SCENE 1.1", kind := .direction, label := "Rain."
         parent := "ACT 1.SCENE 1" }] ∧
    play.graph.LedBy "ACT 1.SCENE 2"
      { id := "ACT 1.SCENE 2.Bob", kind := .character, label := "Bob"
        parent := "ACT 1.SCENE 2" } [] ∧
    play.graph.Deserted "ACT 1.SCENE 3" := by
  obtain ⟨scenes, hscenes, hfloor⟩ := floor_of_perform perform_errand
  obtain rfl : errandEvents = scenes := Option.some_inj.mp (staged_errand.symm.trans hscenes)
  refine ⟨_, perform_errand, rfl, staged_errand, ?_, ?_, ?_⟩
  · exact (hfloor 0 _ rfl).2 [.direction "Rain."] _ _ rfl (by simp [Event.speaker?])
  · exact (hfloor 1 _ rfl).2 [] _ _ rfl (by simp)
  · exact (hfloor 2 _ rfl).1 (by simp [Event.speaker?])

end Script

end Dramaturgy
