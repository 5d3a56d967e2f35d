import Dramaturgy.Format.Elements
import Dramaturgy.Proofs.Document
import Dramaturgy.Proofs.DrawnLines
import Mathlib.Data.List.Forall2

/-!
# A play read back from its elements

What a renderer finds in the element list of a play. `Play.ofElements?` reads the list by the names
of the fields, as `Play.ofDocument?` reads a document. It finds the nodes and then the edges, and
`Graph.Loads` collects what a renderer relies on when it puts them into a picture: an element that
is referred to is there, a parent even earlier, and the classes say of which kind a node is.

A class name cannot hold all the characters of a tag, so that two tags may share a class. What is
kept apart are the classes of tags and those of kinds (`IsTagClass.ofName?_eq_none`).
-/

namespace Dramaturgy

/-! ## Elements -/

/-- A node as a renderer sees it. -/
structure NodeElement where
  id : String
  parent : Option String := none
  label : String
  classes : List String
deriving DecidableEq, Repr

/-- An edge as a renderer sees it. -/
structure EdgeElement where
  source : String
  target : String
  label : String
  classes : List String
deriving DecidableEq, Repr

/-- An element of one of the two groups. -/
inductive Element where
  | node (n : NodeElement)
  | edge (e : EdgeElement)
deriving DecidableEq, Repr

/-- The classes in an element. -/
def Json.classes? (json : Json) : Option (List String) :=
  (json.field? "classes").bind (list? string?)

/-- The node that an element describes. -/
def NodeElement.ofJson? (json : Json) : Option NodeElement := do
  let data ← json.field? "data"
  let id ← (data.field? "id").bind Json.string?
  let parent ← Json.text? (data.field? "parent")
  let label ← (data.field? "label").bind Json.string?
  let classes ← json.classes?
  some { id, parent, label, classes }

/-- The edge that an element describes. -/
def EdgeElement.ofJson? (json : Json) : Option EdgeElement := do
  let data ← json.field? "data"
  let source ← (data.field? "source").bind Json.string?
  let target ← (data.field? "target").bind Json.string?
  let label ← (data.field? "label").bind Json.string?
  let classes ← json.classes?
  some { source, target, label, classes }

/-- The element that a JSON object describes, by the group it is in. -/
def Element.ofJson? (json : Json) : Option Element :=
  match (json.field? "group").bind Json.string? with
  | some "nodes" => (NodeElement.ofJson? json).map .node
  | some "edges" => (EdgeElement.ofJson? json).map .edge
  | _ => none

/-- The elements in a list of elements. -/
def Play.ofElements? (text : String) : Option (List Element) :=
  (Json.parse? text).bind (Json.list? Element.ofJson?)

/-- The element of a node. -/
def Node.element (n : Node) : NodeElement :=
  { id := n.id, parent := n.parent, label := n.label, classes := n.classes }

/-- The element of an edge. -/
def Edge.element (e : Edge) : EdgeElement :=
  { source := e.source, target := e.target, label := e.label, classes := e.classes }

/-! ## Reading what is written -/

theorem Element.ofJson?_toElement_node (n : Node) :
    Element.ofJson? n.toElement = some (.node n.element) := by
  obtain ⟨id, kind, label, parent, tags⟩ := n
  cases parent <;> simp [ofJson?, NodeElement.ofJson?, Node.toElement, Node.element, Json.field?,
    Json.classes?, List.lookup_cons, Json.string?, Json.text?, Json.list?_strings]

theorem Element.ofJson?_toElement_edge (e : Edge) :
    Element.ofJson? e.toElement = some (.edge e.element) := by
  simp [ofJson?, EdgeElement.ofJson?, Edge.toElement, Edge.element, Json.field?, Json.classes?,
    List.lookup_cons, Json.string?, Json.list?_strings]

namespace Play

/-- The elements of a play, as one JSON value. -/
theorem parse?_elements (layout : Json.Layout) (p : Play) : Json.parse? (p.elements layout)
    = some (.array (p.graph.nodes.map (·.toElement) ++ p.graph.edges.map (·.toElement))) := by
  have hnode : ∀ n : Node, Json.Legible n.toElement.tokens := by
    rintro ⟨id, kind, label, parent, tags⟩
    cases parent <;> simp [Node.toElement]
  have hedge : ∀ e : Edge, Json.Legible e.toElement.tokens := by
    simp [Edge.toElement]
  refine Json.parse?_render (Json.legible_array.mpr fun item hitem => ?_) layout
  rcases List.mem_append.mp hitem with hitem | hitem
  · obtain ⟨n, -, rfl⟩ := List.mem_map.mp hitem
    exact hnode n
  · obtain ⟨e, -, rfl⟩ := List.mem_map.mp hitem
    exact hedge e

theorem ofElements?_elements (layout : Json.Layout) (p : Play) : ofElements? (p.elements layout)
    = some ((p.graph.nodes.map (·.element)).map .node
        ++ (p.graph.edges.map (·.element)).map .edge) := by
  rw [ofElements?, parse?_elements, Option.bind_some, Json.list?, mapM_eq_some_iff]
  simp [Function.comp_def, Element.ofJson?_toElement_node, Element.ofJson?_toElement_edge]

end Play

/-! ## Classes -/

/-- A character that a class name may hold: a letter or digit of ASCII, `_` or `-`. -/
def ClassChar (c : Char) : Prop :=
  'A' ≤ c ∧ c ≤ 'Z' ∨ 'a' ≤ c ∧ c ≤ 'z' ∨ '0' ≤ c ∧ c ≤ '9' ∨ c = '_' ∨ c = '-'

theorem isClassChar_iff {c : Char} : isClassChar c = true ↔ ClassChar c := by
  have hranges : isClassChar c =
      (decide ('A'.val ≤ c.val ∧ c.val ≤ 'Z'.val) ||
        (decide ('a'.val ≤ c.val) && decide (c.val ≤ 'z'.val)) ||
        (decide ('0'.val ≤ c.val) && decide (c.val ≤ '9'.val)) || c == '_' || c == '-') := rfl
  simp only [hranges, ClassChar, Char.le_def, Bool.or_eq_true, Bool.and_eq_true, decide_eq_true_eq,
    beq_iff_eq, or_assoc]

/-- A class is that of a tag: the tag behind `tag-`, with `_` for what a class name cannot hold. -/
def IsTagClass (tag name : String) : Prop :=
  ∃ rest : String, name = "tag-" ++ rest ∧ List.Forall₂
    (fun c d => ClassChar c ∧ d = c ∨ ¬ClassChar c ∧ d = '_') tag.toList rest.toList

theorem isTagClass_tagClass (tag : String) : IsTagClass tag (tagClass tag) := by
  refine ⟨_, rfl, ?_⟩
  rw [String.toList_ofList, List.forall₂_map_right_iff]
  refine List.forall₂_same.mpr fun c _ => ?_
  by_cases hc : isClassChar c = true
  · exact Or.inl ⟨isClassChar_iff.mp hc, if_pos hc⟩
  · exact Or.inr ⟨mt isClassChar_iff.mpr hc, if_neg hc⟩

theorem classChar_of_mem_tagClass {tag : String} {c : Char} (h : c ∈ (tagClass tag).toList) :
    ClassChar c := by
  simp only [tagClass, String.toList_append, List.mem_append, String.toList_ofList] at h
  refine isClassChar_iff.mp ?_
  rcases h with h | h
  · have hprefix : "tag-".toList.all isClassChar = true := rfl
    exact List.all_eq_true.mp hprefix c h
  · obtain ⟨d, -, rfl⟩ := List.mem_map.mp h
    split
    · assumption
    · rfl

theorem classChar_of_mem_kind_name {kind : NodeKind} {c : Char} (h : c ∈ kind.name.toList) :
    ClassChar c := by
  have hnames : kind.name.toList.all isClassChar = true := by cases kind <;> rfl
  exact isClassChar_iff.mp (List.all_eq_true.mp hnames c h)

/-- The class of a tag is not that of a kind, whatever the tag. -/
theorem IsTagClass.ofName?_eq_none {tag name : String} (h : IsTagClass tag name) :
    NodeKind.ofName? name = none := by
  obtain ⟨rest, rfl, -⟩ := h
  -- no kind has a name that begins as the class of a tag does
  have hne : ∀ kind : NodeKind, "tag-" ++ rest ≠ kind.name := by
    intro kind heq
    have hhead := congrArg (·.toList.head?) heq
    cases kind <;> simp [NodeKind.name] at hhead
  unfold NodeKind.ofName?
  split
  · next heq => exact absurd heq (hne .scene)
  · next heq => exact absurd heq (hne .direction)
  · next heq => exact absurd heq (hne .character)
  · rfl

/-! ## What a renderer relies on -/

/-- The parents and the ends of edges in a graph are there, and parents come first. -/
structure Graph.Closed (g : Graph) : Prop where
  distinct : (g.nodes.map (·.id)).Nodup
  parents : ∀ before n after parent, g.nodes = before ++ n :: after → n.parent = some parent →
    ∃ m ∈ before, m.id = parent
  ends : ∀ e ∈ g.edges, (∃ a ∈ g.nodes, a.id = e.source) ∧ ∃ b ∈ g.nodes, b.id = e.target

/-- Some elements show a graph as a renderer needs it. -/
structure Graph.Loads (g : Graph) (nodes : List NodeElement) (edges : List EdgeElement) : Prop where
  distinct : (nodes.map (·.id)).Nodup
  /-- A parent is the id of an earlier node. -/
  parents : ∀ before n after parent, nodes = before ++ n :: after → n.parent = some parent →
    parent ∈ before.map (·.id)
  /-- The ends of an edge are ids of nodes. -/
  ends : ∀ e ∈ edges, e.source ∈ nodes.map (·.id) ∧ e.target ∈ nodes.map (·.id)
  /-- The classes of a node are that of its kind and then one for each of its tags. -/
  nodeClasses : List.Forall₂ (fun n element => ∃ tagClasses,
    element.classes = n.kind.name :: tagClasses ∧ List.Forall₂ IsTagClass n.tags tagClasses)
    g.nodes nodes
  /-- The classes of an edge are one for each of its tags. -/
  edgeClasses : List.Forall₂ (fun e element => List.Forall₂ IsTagClass e.tags element.classes)
    g.edges edges
  nodeChars : ∀ n ∈ nodes, ∀ name ∈ n.classes, ∀ c ∈ name.toList, ClassChar c
  edgeChars : ∀ e ∈ edges, ∀ name ∈ e.classes, ∀ c ∈ name.toList, ClassChar c
  /-- The kinds, and nothing else, are what classes with the name of a kind tell. -/
  nodeKinds : nodes.map (fun n => n.classes.filterMap NodeKind.ofName?)
    = g.nodes.map fun n => [n.kind]
  edgeKinds : ∀ e ∈ edges, e.classes.filterMap NodeKind.ofName? = []

namespace Graph

variable {g : Graph}

theorem WellFormed.closed (h : g.WellFormed) : g.Closed where
  distinct := h.distinct
  parents before n after parent heq hparent := by
    obtain ⟨m, hm, hid, -⟩ := h.parents before n after parent heq hparent
    exact ⟨m, hm, hid⟩
  ends e he := by
    obtain ⟨a, ha, b, hb, hsource, htarget, -⟩ := h.ends e he
    exact ⟨⟨a, ha, hsource⟩, b, hb, htarget⟩

theorem closed_of_cast {r : Roster} (h : r.cast.outcome = .ok g) : g.Closed where
  distinct := by
    rw [Roster.cast_eq_built h]
    exact nodup_ids_built _
  parents before n after parent heq hparent := by
    rw [Roster.parent_eq_none_of_cast h (by rw [heq]; simp)] at hparent
    cases hparent
  ends e he := by
    rw [Roster.cast_eq_built h, edges_built_nodes] at he
    cases he

theorem filterMap_ofName?_tagClasses (tags : List String) :
    (tags.map tagClass).filterMap NodeKind.ofName? = [] := by
  refine List.filterMap_eq_nil_iff.mpr fun name hname => ?_
  obtain ⟨tag, -, rfl⟩ := List.mem_map.mp hname
  exact (isTagClass_tagClass tag).ofName?_eq_none

theorem forall₂_isTagClass (tags : List String) :
    List.Forall₂ IsTagClass tags (tags.map tagClass) := by
  rw [List.forall₂_map_right_iff]
  exact List.forall₂_same.mpr fun tag _ => isTagClass_tagClass tag

/-- The elements of a graph whose references are all there can be put into a picture. -/
theorem Closed.loads (h : g.Closed) :
    g.Loads (g.nodes.map (·.element)) (g.edges.map (·.element)) where
  distinct := by
    rw [List.map_map]
    exact h.distinct
  parents before n after parent heq hparent := by
    obtain ⟨front, rest, hnodes, rfl, hrest⟩ := List.map_eq_append_iff.mp heq
    obtain ⟨m, back, rfl, rfl, -⟩ := List.map_eq_cons_iff.mp hrest
    obtain ⟨k, hk, hid⟩ := h.parents front m back parent hnodes hparent
    rw [List.map_map]
    exact List.mem_map.mpr ⟨k, hk, hid⟩
  ends element helement := by
    obtain ⟨e, he, rfl⟩ := List.mem_map.mp helement
    rw [List.map_map]
    obtain ⟨⟨a, ha, hsource⟩, b, hb, htarget⟩ := h.ends e he
    exact ⟨List.mem_map.mpr ⟨a, ha, hsource⟩, List.mem_map.mpr ⟨b, hb, htarget⟩⟩
  nodeClasses := by
    rw [List.forall₂_map_right_iff]
    exact List.forall₂_same.mpr fun n _ => ⟨_, rfl, forall₂_isTagClass n.tags⟩
  edgeClasses := by
    rw [List.forall₂_map_right_iff]
    exact List.forall₂_same.mpr fun e _ => forall₂_isTagClass e.tags
  nodeChars element helement name hname c hc := by
    obtain ⟨n, -, rfl⟩ := List.mem_map.mp helement
    rcases List.mem_cons.mp hname with rfl | hname
    · exact classChar_of_mem_kind_name hc
    · obtain ⟨tag, -, rfl⟩ := List.mem_map.mp hname
      exact classChar_of_mem_tagClass hc
  edgeChars element helement name hname c hc := by
    obtain ⟨e, -, rfl⟩ := List.mem_map.mp helement
    obtain ⟨tag, -, rfl⟩ := List.mem_map.mp hname
    exact classChar_of_mem_tagClass hc
  nodeKinds := by
    rw [List.map_map]
    refine List.map_congr_left fun n _ => ?_
    show (n.kind.name :: n.tags.map tagClass).filterMap NodeKind.ofName? = [n.kind]
    rw [List.filterMap_cons_some (NodeKind.ofName?_name n.kind), filterMap_ofName?_tagClasses]
  edgeKinds element helement := by
    obtain ⟨e, -, rfl⟩ := List.mem_map.mp helement
    exact filterMap_ofName?_tagClasses e.tags

end Graph

/-! ## Plays -/

namespace Play

variable {v : Vocabulary} {script : Script} {p : Play}

theorem closed_graph (h : (script.perform v).outcome = .ok p ∨ (script.cast v).outcome = .ok p) :
    p.graph.Closed := by
  rcases h with h | h
  · obtain ⟨-, scenes, -, hus, rfl⟩ := Script.perform_eq_ok_iff.mp h
    exact (Vocabulary.wellFormed_outline hus).closed
  · obtain ⟨roster, hcast⟩ := exists_roster_of_cast h
    exact Graph.closed_of_cast hcast

/-- **A renderer can load the elements of a play**, in whichever layout they are written, and finds
there the nodes and edges that are in its document, one by one and in their order. -/
theorem elements_load
    (h : (script.perform v).outcome = .ok p ∨ (script.cast v).outcome = .ok p) :
    ∃ nodes edges,
      (∀ layout, ofElements? (p.elements layout) = some (nodes.map .node ++ edges.map .edge)) ∧
      (∀ layout, ∃ q, ofDocument? (p.document layout) = some q ∧
        nodes.map (fun n => (n.id, n.parent, n.label))
          = q.graph.nodes.map (fun n => (n.id, n.parent, n.label)) ∧
        edges.map (fun e => (e.source, e.target, e.label))
          = q.graph.edges.map (fun e => (e.source, e.target, e.label))) ∧
      p.graph.Loads nodes edges := by
  refine ⟨p.graph.nodes.map (·.element), p.graph.edges.map (·.element),
    fun layout => ofElements?_elements layout p, fun layout => ?_, (closed_graph h).loads⟩
  refine ⟨_, ofDocument?_eq layout p, ?_, ?_⟩
  · rw [List.map_map]
    rfl
  · rw [List.map_map]
    rfl

/-- A script with tags that are the names of kinds, or that no class can be called. -/
def mislabelled : Script where
  characters := [.single "Ann" "A guest. [scene, 3rd person]", .single "Bo" "A host. [Ü_1]"]
  plot := [.single "ACT 1" [.scene (.single "SCENE 1" [.speech (.single "Ann"
    ["(To Bo[direction])\"Well?\""])])]]

theorem elements_load_mislabelled : ∃ p, (mislabelled.perform {}).outcome = .ok p ∧
    p.graph.nodes.map (·.classes) = [["scene"], ["character", "tag-scene", "tag-3rd_person"],
      ["character", "tag-__1"]] ∧
    p.graph.edges.map (·.classes) = [["tag-direction"]] ∧
    ∃ nodes edges,
      ofElements? (p.elements .indented) = some (nodes.map .node ++ edges.map .edge) ∧
        p.graph.Loads nodes edges := by
  have h : (mislabelled.perform {}).outcome = .ok _ := rfl
  obtain ⟨nodes, edges, hread, -, hloads⟩ := elements_load (Or.inl h)
  exact ⟨_, h, rfl, rfl, nodes, edges, hread .indented, hloads⟩

end Play

end Dramaturgy
