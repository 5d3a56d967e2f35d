import Dramaturgy.Format.Drawing
import Dramaturgy.Proofs.Containment

/-!
# What is drawn

A drawing goes down from every root and writes one line for each node it comes to. Nothing gets
smaller on the way: how far it leads depends on the parents of the nodes, and these may be anything.
`Graph.Draws` is this way down without a bound on its depth. It relates a node to what has been
written once all below it is done, and so it holds of nothing if the way never ends.

`Play.Drawn` collects what there is to say of a drawing, and `drawn_built_and_complete` says it of
the graph that any calls make, and of plays and casts, all of whose nodes are drawn.
-/

namespace Dramaturgy

/-! ## Rows -/

mutual

/-- The nodes of a tree, each with its line. -/
def Tree.rows (indent : String) (last : Bool) : Tree → List (Node × String)
  | .node n below =>
    (n, indent ++ (if last then "└─" else "├─") ++ " " ++ n.shown) ::
      rowsAll (indent ++ if last then "  " else "│ ") below

/-- The nodes of the trees below a node, each with its line. -/
def rowsAll (indent : String) : List Tree → List (Node × String)
  | [] => []
  | t :: ts => t.rows indent ts.isEmpty ++ rowsAll indent ts

end

mutual

theorem Tree.map_fst_rows (indent : String) (last : Bool) :
    ∀ t : Tree, (t.rows indent last).map (·.1) = t.preorder
  | .node n below => by
    rw [Tree.rows, List.map_cons, map_fst_rowsAll, Tree.preorder]

theorem map_fst_rowsAll (indent : String) :
    ∀ ts : List Tree, (rowsAll indent ts).map (·.1) = preorderAll ts
  | [] => by
    rw [rowsAll, List.map_nil, preorderAll]
  | t :: ts => by
    rw [rowsAll, List.map_append, Tree.map_fst_rows, map_fst_rowsAll, preorderAll]

end

mutual

theorem Tree.map_snd_rows (indent : String) (last : Bool) :
    ∀ t : Tree, (t.rows indent last).map (·.2) = t.drawn indent last
  | .node n below => by
    rw [Tree.rows, List.map_cons, map_snd_rowsAll, Tree.drawn]

theorem map_snd_rowsAll (indent : String) :
    ∀ ts : List Tree, (rowsAll indent ts).map (·.2) = drawnAll indent ts
  | [] => by
    rw [rowsAll, List.map_nil, drawnAll]
  | t :: ts => by
    rw [rowsAll, List.map_append, Tree.map_snd_rows, map_snd_rowsAll, drawnAll]

end

namespace Graph

/-! ## The way down -/

mutual

/-- What is written for a node that has the place `index` among `count` nodes: its own line, and then
what is written for the nodes that it contains, in the order in which they were added. -/
inductive Draws (g : Graph) : String → Node → Nat → Nat → List (Node × String) → Prop where
  | node {indent : String} {n : Node} {index count : Nat} {below : List (Node × String)} :
    -- one can be taken from the count
    0 < count →
    DrawsAll g (indent ++ if index = count - 1 then "  " else "│ ") (g.children n.id) 0
      (g.children n.id).length below →
    Draws g indent n index count
      ((n, indent ++ (if index = count - 1 then "└─" else "├─") ++ " " ++ n.shown) :: below)

/-- What is written for some nodes, the first of which has the place `index` among `count` nodes. -/
inductive DrawsAll (g : Graph) : String → List Node → Nat → Nat → List (Node × String) → Prop where
  | nil {indent : String} {index count : Nat} : DrawsAll g indent [] index count []
  | cons {indent : String} {n : Node} {nodes : List Node} {index count : Nat}
    {rows rest : List (Node × String)} :
    Draws g indent n index count rows → DrawsAll g indent nodes (index + 1) count rest →
    DrawsAll g indent (n :: nodes) index count (rows ++ rest)

end

variable {g : Graph} {n : Node} {indent : String}

theorem drawsAll_rows {f : Node → Tree} {count : Nat} : ∀ {nodes : List Node} {index : Nat},
    index + nodes.length = count →
    (∀ n ∈ nodes, ∀ i < count,
      g.Draws indent n i count ((f n).rows indent (decide (i = count - 1)))) →
    g.DrawsAll indent nodes index count (rowsAll indent (nodes.map f))
  | [], index, _, _ => by
    rw [List.map_nil, rowsAll]
    exact .nil
  | n :: nodes, index, hcount, hdraws => by
    rw [List.length_cons] at hcount
    -- the last place is that of the node after which none is left
    have hlast : decide (index = count - 1) = (nodes.map f).isEmpty := by
      rw [List.isEmpty_map, Bool.eq_iff_iff, decide_eq_true_iff, List.isEmpty_iff_length_eq_zero]
      omega
    rw [List.map_cons, rowsAll, ← hlast]
    refine .cons (hdraws n (by simp) index (by omega)) (drawsAll_rows (by omega) ?_)
    exact fun m hm => hdraws m (List.mem_cons_of_mem _ hm)

/-- If the way down ends, it writes the rows of the tree. -/
theorem draws_rows : ∀ (depth : Nat) {n : Node} {indent : String} {index count : Nat},
    g.EndsWithin depth n → index < count →
    g.Draws indent n index count ((g.tree depth n).rows indent (decide (index = count - 1)))
  | depth + 1, n, indent, index, count, hends, hindex => by
    rw [tree, Tree.rows]
    simp only [decide_eq_true_eq]
    refine .node (by omega) (drawsAll_rows (Nat.zero_add _) ?_)
    exact fun c hc i hi => draws_rows depth (hends c hc) hi

theorem drawsAll_forest (hid : (g.nodes.map (·.id)).Nodup) :
    g.DrawsAll "" g.roots 0 g.roots.length (rowsAll "" g.forest) :=
  drawsAll_rows (Nat.zero_add _) fun _ hroot _ hi =>
    draws_rows _ (endsWithin_of_mem_roots hid hroot) hi

/-! ## Connectors -/

/-- A node and those that have the same parent, in the order in which they were added. -/
def siblings (g : Graph) (n : Node) : List Node :=
  g.nodes.filter (·.parent == n.parent)

/-- The line of a node has the closing connector exactly if the node is the last of its siblings. -/
def Connected (g : Graph) (row : Node × String) : Prop :=
  ∃ indent, row.2 = indent
    ++ (if (g.siblings row.1).getLast? = some row.1 then "└─" else "├─") ++ " " ++ row.1.shown

theorem siblings_of_mem_roots (h : n ∈ g.roots) : g.siblings n = g.roots := by
  rw [siblings, (mem_roots.mp h).2, roots]

theorem siblings_of_mem_children {m : Node} (h : m ∈ g.children n.id) :
    g.siblings m = g.children n.id := by
  rw [siblings, (mem_children.mp h).2, children]

/-- Nothing stands behind the last one of distinct nodes. -/
theorem getLast?_eq_some_iff {before nodes : List Node} (h : (before ++ n :: nodes).Nodup) :
    (before ++ n :: nodes).getLast? = some n ↔ nodes = [] := by
  rcases List.eq_nil_or_concat nodes with rfl | ⟨rest, m, rfl⟩
  · simp
  · have hne : m ≠ n := by
      rintro rfl
      simp [List.nodup_append] at h
    rw [List.concat_eq_append, ← List.cons_append, ← List.append_assoc, List.getLast?_concat]
    simp [hne]

theorem connected_rowsAll {f : Node → Tree} {group : List Node} (hgroup : group.Nodup) :
    ∀ (before : List Node) {nodes : List Node}, before ++ nodes = group →
    (∀ n ∈ nodes, ∀ last : Bool, (last = true ↔ group.getLast? = some n) →
      ∀ row ∈ (f n).rows indent last, g.Connected row) →
    ∀ row ∈ rowsAll indent (nodes.map f), g.Connected row
  | before, [], _, _, row, hrow => by
    rw [List.map_nil, rowsAll] at hrow
    cases hrow
  | before, n :: nodes, heq, hrows, row, hrow => by
    rw [List.map_cons, rowsAll, List.mem_append] at hrow
    rcases hrow with hrow | hrow
    · refine hrows n (by simp) _ ?_ row hrow
      subst heq
      rw [List.isEmpty_map, List.isEmpty_iff, getLast?_eq_some_iff hgroup]
    · refine connected_rowsAll hgroup (before ++ [n]) (by simpa using heq) ?_ row hrow
      exact fun m hm => hrows m (List.mem_cons_of_mem _ hm)

theorem connected_rows (hid : (g.nodes.map (·.id)).Nodup) : ∀ (depth : Nat) {n : Node}
    {indent : String} {last : Bool}, (last = true ↔ (g.siblings n).getLast? = some n) →
    ∀ row ∈ (g.tree depth n).rows indent last, g.Connected row
  | 0, n, indent, last, hlast, row, hrow => by
    rw [tree, Tree.rows, rowsAll, List.mem_singleton] at hrow
    subst hrow
    exact ⟨indent, by simp only [hlast]⟩
  | depth + 1, n, indent, last, hlast, row, hrow => by
    rw [tree, Tree.rows, List.mem_cons] at hrow
    rcases hrow with rfl | hrow
    · exact ⟨indent, by simp only [hlast]⟩
    · refine connected_rowsAll (nodup_children hid n.id) [] (List.nil_append _) ?_ row hrow
      intro c hc last' hlast'
      rw [← siblings_of_mem_children hc] at hlast'
      exact connected_rows hid depth hlast'

theorem connected_forest (hid : (g.nodes.map (·.id)).Nodup) :
    ∀ row ∈ rowsAll "" g.forest, g.Connected row := by
  refine connected_rowsAll (nodup_roots hid) [] (List.nil_append _) fun n hn last hlast => ?_
  rw [← siblings_of_mem_roots hn] at hlast
  exact connected_rows hid _ hlast

end Graph

/-! ## Drawings -/

namespace Play

/-- The nodes of a drawing, each with its line. -/
def rows (p : Play) : List (Node × String) :=
  rowsAll "" p.graph.forest

/-- The first line of a drawing. -/
def titleLine (p : Play) : String :=
  "⧉ " ++ shown (p.title.getD "Untitled").toList

/-- What a drawing has to meet. -/
structure Drawn (p : Play) : Prop where
  /-- The way down from each root comes to an end, and these are the rows it writes. -/
  ends : p.graph.DrawsAll "" p.graph.roots 0 p.graph.roots.length p.rows
  /-- The lines are the title, those of the rows, and those of the edges. -/
  lines : p.drawnLines = p.titleLine :: p.rows.map (·.2) ++ p.graph.edges.map p.graph.shownEdge
  /-- What is printed is these lines, each with a line break behind it. -/
  printed : p.drawing = p.titleLine ++ "\n" ++ String.join (p.rows.map fun row => row.2 ++ "\n") ++
    String.join (p.graph.edges.map fun e => p.graph.shownEdge e ++ "\n")
  /-- No node has two lines. -/
  once : (p.rows.map (·.1)).Nodup
  /-- The nodes that have a line are those that hang below a root. -/
  rooted : ∀ n, n ∈ p.rows.map (·.1) ↔ p.graph.Rooted n
  /-- The last one of siblings has the closing connector, and no other one has it. -/
  connected : ∀ row ∈ p.rows, p.graph.Connected row

variable {p : Play}

theorem drawnLines_eq (p : Play) :
    p.drawnLines = p.titleLine :: p.rows.map (·.2) ++ p.graph.edges.map p.graph.shownEdge := by
  rw [rows, map_snd_rowsAll, drawnLines, titleLine]

theorem drawing_eq (p : Play) : p.drawing
    = p.titleLine ++ "\n" ++ String.join (p.rows.map fun row => row.2 ++ "\n") ++
      String.join (p.graph.edges.map fun e => p.graph.shownEdge e ++ "\n") := by
  rw [drawing, drawnLines_eq, List.map_append, List.map_cons, List.map_map, List.map_map,
    String.join_append, String.join_cons]
  rfl

theorem drawn_of_nodup (hid : (p.graph.nodes.map (·.id)).Nodup) : p.Drawn where
  ends := Graph.drawsAll_forest hid
  lines := p.drawnLines_eq
  printed := p.drawing_eq
  once := by
    rw [rows, map_fst_rowsAll]
    exact Graph.nodup_forest hid
  rooted n := by
    rw [rows, map_fst_rowsAll]
    exact Graph.mem_forest_iff hid
  connected := Graph.connected_forest hid

theorem rows_perm (hid : (p.graph.nodes.map (·.id)).Nodup)
    (h : ∀ n ∈ p.graph.nodes, p.graph.Rooted n) : (p.rows.map (·.1)).Perm p.graph.nodes := by
  rw [rows, map_fst_rowsAll]
  exact Graph.forest_perm hid h

/-- **What is drawn.** Drawing ends on the graph that any calls make, and it gives each node that
hangs below a root one line and other nodes none. In plays and casts each node has its line. -/
theorem drawn_built_and_complete :
    (∀ (p : Play) (calls : List Addition), ({ p with graph := Graph.built calls } : Play).Drawn) ∧
    (∀ (v : Vocabulary) (script : Script) (p : Play), (script.perform v).outcome = .ok p →
      p.Drawn ∧ (p.rows.map (·.1)).Perm p.graph.nodes) ∧
    ∀ (roster : Roster) (p : Play), roster.cast.outcome = .ok p.graph →
      p.Drawn ∧ (p.rows.map (·.1)).Perm p.graph.nodes := by
  refine ⟨fun p calls => drawn_of_nodup (Graph.nodup_ids_built calls), ?_, ?_⟩
  · intro v script p h
    obtain ⟨-, scenes, -, hus, rfl⟩ := Script.perform_eq_ok_iff.mp h
    have hform := Vocabulary.wellFormed_outline (v := v) hus
    exact ⟨drawn_of_nodup hform.distinct, rows_perm hform.distinct fun n hn => hform.rooted hn⟩
  · intro roster p h
    have hid : (p.graph.nodes.map (·.id)).Nodup := by
      rw [Roster.cast_eq_built h]
      exact Graph.nodup_ids_built _
    exact ⟨drawn_of_nodup hid, rows_perm hid fun n hn => Roster.rooted_of_cast h hn⟩

/-- Calls that put nodes into circles: two that contain each other, one that contains itself, one
whose parent is missing, and one that comes before its parent. The last call fails. -/
def circles : List Addition :=
  [.node { id := "b", kind := .character, label := "Below", parent := some "a" },
    .node { id := "c", kind := .scene, label := "Circle", parent := some "d" },
    .node { id := "d", kind := .scene, label := "Circle", parent := some "c" },
    .node { id := "e", kind := .scene, label := "Itself", parent := some "e" },
    .node { id := "f", kind := .scene, label := "Missing", parent := some "g" },
    .node { id := "a", kind := .scene, label := "Above" },
    .edge { source := "b", target := "c" },
    .node { id := "b", kind := .scene, label := "Taken" }]

theorem drawn_built_and_complete_circles :
    ({ graph := Graph.built circles } : Play).Drawn ∧
    ({ graph := Graph.built circles } : Play).rows.map (·.1.id) = ["a", "b"] ∧
    ({ graph := Graph.built circles } : Play).drawing
      = "⧉ Untitled\n└─ § Above\n  └─ ☺ Below\n↦ Below → Circle\n" ∧
    (∃ p, (Script.errand.perform {}).outcome = .ok p ∧
      (p.Drawn ∧ (p.rows.map (·.1)).Perm p.graph.nodes) ∧ p.drawing = "⧉ Untitled\n" ++
        "├─ § SCENE 1\n│ ├─ ¶ Rain.\n│ ├─ ☺ Alice (User)\n│ ├─ ☺ Bob\n│ ├─ ¶ Knocks.\n" ++
        "│ ├─ ☺ Rex (Agent, Pet)\n│ └─ ¶ The door opens.\n" ++
        "├─ § SCENE 2\n│ ├─ ☺ Bob\n│ └─ ☺ Alice (User)\n└─ § SCENE 3\n  └─ ¶ Silence.\n" ++
        "↦ Alice → Bob: Open up (urgent, aside)\n↦ Alice → Alice: Open up (urgent, aside)\n" ++
        "↦ Alice → Knocks.\n↦ Bob → Alice: Coming (hush)\n↦ Bob → Rex: Coming (hush)\n" ++
        "↦ Bob → The door opens.\n↦ Bob → Alice\n") ∧
    ∃ p, (Script.errand.cast {}).outcome = .ok p ∧
      (p.Drawn ∧ (p.rows.map (·.1)).Perm p.graph.nodes) ∧ p.drawing = "⧉ Untitled\n" ++
        "├─ ¶ Processing description, user a...\n├─ ☺ Alice (User)\n├─ ☺ Bob\n" ++
        "└─ ☺ Rex (Agent, Pet)\n" := by
  refine ⟨drawn_built_and_complete.1 {} circles, rfl, rfl, ?_, ?_⟩
  · have hplay := Script.perform_errand
    exact ⟨_, hplay, drawn_built_and_complete.2.1 {} Script.errand _ hplay, by decide +kernel⟩
  · exact ⟨_, rfl, drawn_built_and_complete.2.2 (Script.errand.writtenRoster {}) _ rfl,
      by decide +kernel⟩

end Play

end Dramaturgy
