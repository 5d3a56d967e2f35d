import Dramaturgy.Proofs.Trace

/-!
# The steps tell how the graph has come about

From the steps that are noted while a script is performed its graph can be built again.
`Graph.ReplayedBy` collects what that means: nothing is missing, nothing is told twice, and nothing
is told before what it rests on. `replayed_of_perform` says it of every play.
-/

namespace Dramaturgy

open Event

/-! ## What a trace has to tell -/

/-- A note is about a scene: about its node, a node in it, or an edge with an end in it. -/
def Note.Concerns (g : Graph) (scene : String) : Note → Prop
  | .node id _ => id = scene ∨ g.Within id scene
  | .edge source target _ => g.Within source scene ∨ g.Within target scene
  | _ => False

/-- A trace tells how a graph has come about in the act of the given label. -/
structure Graph.ReplayedBy (g : Graph) (act : String) (trace : List Note) : Prop where
  /-- The act is opened before all else, and only once. -/
  act : ∃ rest, trace = .act act :: rest ∧ rest.filterMap Note.act? = []
  /-- The nodes are those of the graph, in the order in which they were added. -/
  nodes : trace.filterMap Note.node? = g.nodes.map fun n => (n.id, n.kind)
  /-- The edges are those of the graph, in the order in which they were added. -/
  edges : trace.filterMap Note.edge? = g.edges.map fun e => (e.source, e.target, e.label)
  /-- No id is told of twice. -/
  once : ((trace.filterMap Note.node?).map (·.1)).Nodup
  /-- Each scene begins once. -/
  scenes : trace.filterMap Note.scene? = (g.nodes.filter (·.kind = .scene)).map (·.label)
  /-- A scene begins when its node has just been added, and nothing about it comes earlier. -/
  begins : ∀ before label after, trace = before ++ .scene label :: after →
    ∃ earlier n, before = earlier ++ [n.note] ∧ n ∈ g.nodes ∧ n.kind = .scene ∧ n.label = label ∧
      ∀ note ∈ earlier, ¬note.Concerns g n.id
  /-- A node comes after the one that contains it. -/
  parents : ∀ before id kind after, trace = before ++ .node id kind :: after →
    ∀ parent, g.Within id parent → .node parent .scene ∈ before
  /-- An edge comes after both its ends. -/
  ends : ∀ before source target label after, trace = before ++ .edge source target label :: after →
    (∃ kind, .node source kind ∈ before) ∧ ∃ kind, .node target kind ∈ before

/-! ## Lists that are cut in two -/

section Split

variable {α β : Type} {xs ys before after : List α} {y : α}

/-- An element of two lists is one of the first, or it comes after all of that. -/
theorem split_append (h : xs ++ ys = before ++ y :: after) :
    (∃ rest, xs = before ++ y :: rest) ∨ ∃ between, before = xs ++ between ∧
      ys = between ++ y :: after := by
  rcases List.append_eq_append_iff.mp h with ⟨between, hbefore, hys⟩ | ⟨rest, hxs, hrest⟩
  · exact Or.inr ⟨between, hbefore, hys⟩
  · cases rest with
    | nil =>
      rw [List.append_nil] at hxs
      exact Or.inr ⟨[], by rw [hxs, List.append_nil], hrest.symm⟩
    | cons z rest =>
      obtain ⟨rfl, -⟩ := List.cons.inj hrest
      exact Or.inl ⟨rest, hxs⟩

/-- What elements give in turn is given by one of them, after what those before it give. -/
theorem split_inTurn {f : List β → β → List α} {zs : List β}
    (h : inTurn f zs = before ++ y :: after) : ∃ past z rest front back,
      zs = past ++ z :: rest ∧ f past z = front ++ y :: back ∧ before = inTurn f past ++ front := by
  induction zs using List.reverseRecOn generalizing after with
  | nil => simp [inTurn_nil] at h
  | append_singleton zs z ih =>
    rw [inTurn_append_singleton] at h
    rcases split_append h with ⟨rest, hold⟩ | ⟨front, hbefore, hnew⟩
    · obtain ⟨past, w, rest', front, back, rfl, hw, hbefore⟩ := ih hold
      exact ⟨past, w, rest' ++ [z], front, back, by simp, hw, hbefore⟩
    · exact ⟨zs, z, [], front, after, rfl, hnew, hbefore⟩

end Split

/-! ## The trace of events -/

namespace Vocabulary

variable {v : Vocabulary} {scenes : List (List (Event Character))}
  {before after : List Note} {note : Note} {id : String} {i : Nat}

/-- A node has been told of exactly if it is there. -/
theorem mem_trace_iff {kind : NodeKind} : .node id kind ∈ v.trace scenes ↔
    ∃ n ∈ (v.outline scenes).nodes, n.id = id ∧ n.kind = kind := by
  have hmem : Note.node id kind ∈ v.trace scenes ↔
      (id, kind) ∈ (v.trace scenes).filterMap Note.node? := by
    rw [List.mem_filterMap]
    constructor
    · intro h
      exact ⟨_, h, rfl⟩
    · rintro ⟨note, h, hnote⟩
      cases note <;> cases hnote
      exact h
  rw [hmem, filterMap_node?_trace, List.mem_map]
  simp only [Prod.mk.injEq]

theorem exists_edge_of_mem_trace {source target label : String}
    (h : .edge source target label ∈ v.trace scenes) :
    ∃ e ∈ (v.outline scenes).edges, e.source = source ∧ e.target = target := by
  have hmem : (source, target, label) ∈ (v.trace scenes).filterMap Note.edge? :=
    List.mem_filterMap.mpr ⟨_, h, rfl⟩
  rw [filterMap_edge?_trace, List.mem_map] at hmem
  obtain ⟨e, he, hends⟩ := hmem
  cases hends
  exact ⟨e, he, rfl, rfl⟩

/-! ### When it is told -/

/-- What numbered elements give is given by one of them, after what those before it give. -/
theorem split_flatMap_zipIdx {α β : Type} {xs : List α} {f : Nat → α → List β}
    {before after : List β} {y : β}
    (h : ((xs.zipIdx 1).flatMap fun (x, number) => f number x) = before ++ y :: after) :
    ∃ i x front back, xs[i]? = some x ∧ f (i + 1) x = front ++ y :: back ∧
      before = (((xs.take i).zipIdx 1).flatMap fun (x, number) => f number x) ++ front := by
  induction xs using List.reverseRecOn generalizing after with
  | nil => simp at h
  | append_singleton xs x ih =>
    rw [flatMap_zipIdx_append_singleton] at h
    rcases split_append h with ⟨rest, hold⟩ | ⟨front, hbefore, hnew⟩
    · obtain ⟨i, z, front, back, hget, hz, hbefore⟩ := ih hold
      have hlt : i < xs.length := (List.getElem?_eq_some_iff.mp hget).1
      refine ⟨i, z, front, back, ?_, hz, ?_⟩
      · rwa [List.getElem?_append_left hlt]
      · rwa [List.take_append_of_le_length (Nat.le_of_lt hlt)]
    · exact ⟨xs.length, x, front, after, by simp, hnew, by simpa using hbefore⟩

/-- A step opens the act, adds the node of a scene, begins that scene, or is that of an event. -/
theorem trace_cases (h : v.trace scenes = before ++ note :: after) :
    note = .act (v.actLabel 1) ∨
    ∃ i events, scenes[i]? = some events ∧
      ((note = (v.sceneNode (i + 1)).note ∧ before = v.trace (scenes.take i)) ∨
      (note = .scene (v.sceneLabel (i + 1)) ∧
        before = v.trace (scenes.take i) ++ [(v.sceneNode (i + 1)).note]) ∨
      ∃ past e rest front back, events = past ++ e :: rest ∧
        e.steps (v.sceneId 1 (i + 1)) past = front ++ note :: back ∧
        before = v.trace (scenes.take i) ++ v.sceneSteps (i + 1) past ++ front) := by
  cases before with
  | nil => exact Or.inl (List.cons.inj h).1.symm
  | cons first before =>
    obtain ⟨rfl, hscenes⟩ := List.cons.inj h
    obtain ⟨i, events, front, back, hget, hsteps, rfl⟩ := split_flatMap_zipIdx hscenes
    refine Or.inr ⟨i, events, hget, ?_⟩
    rw [sceneSteps] at hsteps
    cases front with
    | nil =>
      obtain ⟨hnote, -⟩ := List.cons.inj hsteps
      exact Or.inl ⟨hnote.symm, by rw [List.append_nil]; rfl⟩
    | cons added front =>
      obtain ⟨rfl, hrest⟩ := List.cons.inj hsteps
      cases front with
      | nil =>
        obtain ⟨hnote, -⟩ := List.cons.inj hrest
        exact Or.inr (Or.inl ⟨hnote.symm, rfl⟩)
      | cons begun front =>
        obtain ⟨rfl, hevents⟩ := List.cons.inj hrest
        obtain ⟨past, e, rest, front, back, hpast, he, rfl⟩ := split_inTurn hevents
        exact Or.inr (Or.inr ⟨past, e, rest, front, back, hpast, he, by simp [trace, sceneSteps]⟩)

/-! ### What rests on what -/

/-- Whatever contains an id in a scene is that scene. -/
theorem parent_of_within {name parent : String}
    (h : (v.outline scenes).Within (localId (v.sceneId 1 (i + 1)) name) parent) :
    parent = v.sceneId 1 (i + 1) := by
  obtain ⟨n, hfind, hparent⟩ := h
  obtain ⟨hn, hid⟩ := Graph.mem_of_node? hfind
  obtain ⟨events, -, hmem⟩ := mem_nodes_of_id hn hid
  rw [(id_of_mem_nodes hmem).2, Option.some.injEq] at hparent
  exact hparent.symm

theorem eq_of_within {name : String} {j : Nat}
    (h : (v.outline scenes).Within (localId (v.sceneId 1 (j + 1)) name) (v.sceneId 1 (i + 1))) :
    i = j := by
  have := (sceneId_inj.mp (parent_of_within h)).2
  omega

/-- Nothing contains a scene. -/
theorem not_within_sceneId {parent : String} {number : Nat} :
    ¬(v.outline scenes).Within (v.sceneId 1 number) parent := by
  rintro ⟨n, hfind, hparent⟩
  obtain ⟨hn, hid⟩ := Graph.mem_of_node? hfind
  rcases mem_nodes_outline_cases hn with ⟨j, rfl⟩ | ⟨j, events, -, hmem⟩
  · cases hparent
  · obtain ⟨⟨name, hname⟩, -⟩ := id_of_mem_nodes hmem
    exact localId_ne_sceneId (hname.symm.trans hid)

/-- The steps of the scenes before are not about a scene. -/
theorem not_concerns_of_mem_trace (h : note ∈ v.trace (scenes.take i)) :
    ¬note.Concerns (v.outline scenes) (v.sceneId 1 (i + 1)) := by
  cases note with
  | node id kind =>
    obtain ⟨n, hn, rfl, -⟩ := mem_trace_iff.mp h
    obtain ⟨j, events, hget, hmem⟩ := mem_nodes_outline.mp hn
    have hj : j < i :=
      Nat.lt_of_lt_of_le (List.getElem?_eq_some_iff.mp hget).1 (List.length_take_le ..)
    rcases List.mem_cons.mp hmem with rfl | hmem
    · rintro (hid | hwithin)
      · have := (sceneId_inj.mp hid).2
        omega
      · exact not_within_sceneId hwithin
    · obtain ⟨⟨name, hname⟩, -⟩ := id_of_mem_nodes hmem
      rw [hname]
      rintro (hid | hwithin)
      · exact localId_ne_sceneId hid
      · have := eq_of_within hwithin
        omega
  | edge source target label =>
    obtain ⟨e, he, rfl, rfl⟩ := exists_edge_of_mem_trace h
    obtain ⟨j, events, hget, hmem⟩ := mem_edges_outline.mp he
    have hj : j < i :=
      Nat.lt_of_lt_of_le (List.getElem?_eq_some_iff.mp hget).1 (List.length_take_le ..)
    obtain ⟨⟨x, hsource⟩, y, htarget⟩ := ends_of_mem_edges hmem
    rw [hsource, htarget]
    rintro (hwithin | hwithin)
    · have := eq_of_within hwithin
      omega
    · have := eq_of_within hwithin
      omega
  | _ => exact id

/-- What is told of a scene so far begins with its node, and has a node for each of its events. -/
theorem note_mem_sceneSteps {number : Nat} {past : List (Event Character)} {n : Node}
    (h : n ∈ v.sceneNodes number past) : n.note ∈ v.sceneSteps number past := by
  rcases List.mem_cons.mp h with rfl | h
  · exact List.mem_cons_self
  · obtain ⟨earlier, e, rest, hpast, hn⟩ := mem_inTurn.mp h
    refine List.mem_cons_of_mem _ (List.mem_cons_of_mem _ ?_)
    exact mem_inTurn.mpr ⟨earlier, e, rest, hpast,
      List.mem_append_left _ (List.mem_map_of_mem hn)⟩

/-- A step of an event is that of one of its nodes or of one of its edges. -/
theorem split_steps {scene : String} {past : List (Event Character)} {e : Event Character}
    {front back : List Note} (h : e.steps scene past = front ++ note :: back) :
    (∃ n ∈ e.nodes scene past, n.note = note) ∨ ∃ d ∈ e.edges scene past, d.note = note := by
  have hmem : note ∈ e.steps scene past := by
    rw [h]
    simp
  rcases List.mem_append.mp hmem with h | h
  · exact Or.inl (List.mem_map.mp h)
  · exact Or.inr (List.mem_map.mp h)

/-- Before an edge of an event come the nodes of that event. -/
theorem split_steps_edge {scene source target label : String} {past : List (Event Character)}
    {e : Event Character} {front back : List Note}
    (h : e.steps scene past = front ++ .edge source target label :: back) :
    (∃ d ∈ e.edges scene past, d.source = source ∧ d.target = target) ∧
      ∀ n ∈ e.nodes scene past, n.note ∈ front := by
  rcases split_append h with ⟨rest, hnodes⟩ | ⟨between, rfl, hedges⟩
  · have hmem : Note.edge source target label ∈ (e.nodes scene past).map (·.note) := by
      rw [hnodes]
      simp
    obtain ⟨n, -, hn⟩ := List.mem_map.mp hmem
    cases hn
  · have hmem : Note.edge source target label ∈ (e.edges scene past).map (·.note) := by
      rw [hedges]
      simp
    obtain ⟨d, hd, hnote⟩ := List.mem_map.mp hmem
    cases hnote
    exact ⟨⟨d, hd, rfl, rfl⟩, fun n hn => List.mem_append_left _ (List.mem_map_of_mem hn)⟩

/-! ### What stands before a step -/

/-- The act is told of before all else, and only once. -/
theorem trace_eq_cons_act : ∃ rest, v.trace scenes = .act (v.actLabel 1) :: rest ∧
    rest.filterMap Note.act? = [] := by
  refine ⟨_, rfl, ?_⟩
  have hacts : (v.trace scenes).filterMap Note.act? = [v.actLabel 1] := filterMap_act?_trace
  rw [trace, filterMap_cons_eq] at hacts
  exact (List.cons.inj hacts).2

/-- A scene begins when its node has just been added, and before anything else about it. -/
theorem before_scene {label : String} (h : v.trace scenes = before ++ .scene label :: after) :
    ∃ earlier n, before = earlier ++ [n.note] ∧ n ∈ (v.outline scenes).nodes ∧ n.kind = .scene ∧
      n.label = label ∧ ∀ note ∈ earlier, ¬note.Concerns (v.outline scenes) n.id := by
  rcases trace_cases h with hact | ⟨i, events, hget, ⟨hnode, -⟩ | ⟨hscene, hbefore⟩ |
    ⟨past, e, rest, front, back, -, he, -⟩⟩
  · cases hact
  · cases hnode
  · cases hscene
    refine ⟨_, v.sceneNode (i + 1), hbefore, ?_, rfl, rfl, fun _ => not_concerns_of_mem_trace⟩
    exact mem_nodes_outline.mpr ⟨i, events, hget, List.mem_cons_self⟩
  · rcases split_steps he with ⟨n, -, hn⟩ | ⟨d, -, hd⟩
    · cases hn
    · cases hd

/-- A node is added after the one that contains it. -/
theorem before_node {kind : NodeKind} {parent : String}
    (h : v.trace scenes = before ++ .node id kind :: after)
    (hwithin : (v.outline scenes).Within id parent) : .node parent .scene ∈ before := by
  rcases trace_cases h with hact | ⟨i, events, -, ⟨hnode, -⟩ | ⟨hscene, -⟩ |
    ⟨past, e, rest, front, back, -, he, hbefore⟩⟩
  · cases hact
  · cases hnode
    exact absurd hwithin not_within_sceneId
  · cases hscene
  · rcases split_steps he with ⟨n, hn, hnote⟩ | ⟨d, -, hd⟩
    · cases hnote
      obtain ⟨⟨name, hname⟩, -⟩ := id_of_mem_nodes (mem_inTurn.mpr ⟨past, e, [], rfl, hn⟩)
      rw [hname] at hwithin
      rw [parent_of_within hwithin, hbefore]
      -- the scene has been opened before its first event
      have hopened : (v.sceneNode (i + 1)).note ∈ v.sceneSteps (i + 1) past :=
        note_mem_sceneSteps List.mem_cons_self
      exact List.mem_append_left _ (List.mem_append_right _ hopened)
    · cases hd

/-- An edge is added after both its ends. -/
theorem before_edge {source target label : String}
    (h : v.trace scenes = before ++ .edge source target label :: after) :
    (∃ kind, .node source kind ∈ before) ∧ ∃ kind, .node target kind ∈ before := by
  rcases trace_cases h with hact | ⟨i, events, -, ⟨hnode, -⟩ | ⟨hscene, -⟩ |
    ⟨past, e, rest, front, back, -, he, hbefore⟩⟩
  · cases hact
  · cases hnode
  · cases hscene
  · obtain ⟨⟨d, hd, rfl, rfl⟩, hnew⟩ := split_steps_edge he
    -- a node in the scene is there already, or the event itself has just added it
    have hthere : ∀ n ∈ inTurn (nodes (v.sceneId 1 (i + 1))) (past ++ [e]), n.note ∈ before := by
      intro n hn
      rw [inTurn_append_singleton, List.mem_append] at hn
      rw [hbefore]
      rcases hn with hn | hn
      · refine List.mem_append_left _ (List.mem_append_right _ ?_)
        exact note_mem_sceneSteps (List.mem_cons_of_mem _ hn)
      · exact List.mem_append_right _ (hnew n hn)
    obtain ⟨a, ha, b, hb, hsource, htarget, -⟩ :=
      nodes_of_mem_edges (mem_inTurn.mpr ⟨past, e, [], rfl, hd⟩)
    exact ⟨⟨a.kind, hsource ▸ hthere a ha⟩, b.kind, htarget ▸ hthere b hb⟩

/-- A trace of scenes tells how their outline has come about. -/
theorem replayedBy_trace (hdistinct : ((v.outline scenes).nodes.map (·.id)).Nodup) :
    (v.outline scenes).ReplayedBy (v.actLabel 1) (v.trace scenes) where
  act := trace_eq_cons_act
  nodes := filterMap_node?_trace
  edges := filterMap_edge?_trace
  once := by
    rw [filterMap_node?_trace, List.map_map]
    exact hdistinct
  scenes := filterMap_scene?_trace
  begins _ _ _ := before_scene
  parents _ _ _ _ h _ := before_node h
  ends _ _ _ _ _ := before_edge

end Vocabulary

/-! ## Plays -/

namespace Script

variable {v : Vocabulary} {script : Script} {play : Play}

/-- **The steps that are noted tell how the graph of a play has come about**: each of its nodes and
edges once and in its order, and nothing else that comes into it. -/
theorem replayed_of_perform (h : (script.perform v).outcome = .ok play) :
    play.graph.ReplayedBy (v.actLabel 1) (Note.steps (script.perform v).notes) := by
  have hdistinct : (play.graph.nodes.map (·.id)).Nodup := by
    obtain ⟨-, scenes, -, hus, rfl⟩ := perform_eq_ok_iff.mp h
    exact Vocabulary.nodup_ids_outline hus
  obtain ⟨scenes, hgraph, hsteps⟩ := steps_of_perform h
  rw [hgraph] at hdistinct ⊢
  rw [hsteps]
  exact Vocabulary.replayedBy_trace hdistinct

theorem replayed_of_perform_masquerade : ∃ play,
    (masquerade.perform numerals).outcome = .ok play ∧
      Note.steps (masquerade.perform numerals).notes
        = [.act "1", .node "1.1.1" .scene, .scene "1.1", .node "1.1.1.1" .direction,
          .node "1.1.1.2" .character, .node "1.1.1.1.1.1" .character,
          .edge "1.1.1.2" "1.1.1.1.1.1" "Who is there?", .node "1.1.1." .character,
          .edge "1.1.1.2" "1.1.1." "", .edge "1.1.1." "1.1.1.2" "Nobody",
          .edge "1.1.1." "1.1.1.1.1.1" "Nobody", .node "1.1.2" .scene, .scene "1.2",
          .node "1.1.2.1.1.1" .character, .node "1.1.2.1" .direction,
          .edge "1.1.2.1.1.1" "1.1.2.1" ""] ∧
      play.graph.ReplayedBy "1" (Note.steps (masquerade.perform numerals).notes) := by
  have h : (masquerade.perform numerals).outcome = .ok _ := rfl
  exact ⟨_, h, rfl, replayed_of_perform h⟩

end Script

end Dramaturgy
