import Dramaturgy.Proofs.Action
import Dramaturgy.Proofs.Drawing
import Mathlib.Algebra.Ring.Nat

/-!
# How many lines a drawing has

A drawing has a line for the title, one for each node and one for each edge. Whether these are all
of its lines depends on the texts in them, which are taken from the script. The label of a node
cannot add a line, for only its first one is shown. But titles, the labels of edges, and tags are
written as they are, with the line breaks they hold, and these are the only texts of a script that
add lines: `lineBreaks_drawing` counts them.

An edge shows the id of an end that has no label. In a play such an id holds a line break only if
the headings of acts or scenes do.
-/

namespace Dramaturgy

open Text Event

/-! ## Line breaks in texts -/

/-- How many line breaks a text holds. -/
def lineBreaks (s : String) : Nat :=
  s.toList.count '\n'

/-- How many line breaks some tags hold. -/
def tagBreaks (tags : List String) : Nat :=
  (tags.map lineBreaks).sum

@[simp] theorem lineBreaks_append (s t : String) :
    lineBreaks (s ++ t) = lineBreaks s + lineBreaks t := by
  simp [lineBreaks]

theorem lineBreaks_join (lines : List String) :
    lineBreaks (String.join lines) = (lines.map lineBreaks).sum := by
  induction lines with
  | nil => rfl
  | cons line lines ih => simp [ih]

theorem lineBreaks_intercalate {separator : String} (h : lineBreaks separator = 0) :
    ∀ texts : List String,
      lineBreaks (separator.intercalate texts) = (texts.map lineBreaks).sum
  | [] => by simp [lineBreaks]
  | [s] => by simp
  | s :: t :: texts => by
    rw [String.intercalate_cons_cons, lineBreaks_append, lineBreaks_append, h,
      lineBreaks_intercalate h (t :: texts)]
    simp

/-- What is shown of a text has the line breaks among its first 30 characters. -/
theorem lineBreaks_shown (s : List Char) : lineBreaks (shown s) = (s.take 30).count '\n' := by
  rw [lineBreaks, shown, String.toList_ofList, shorten]
  split
  · simp
  · rw [List.take_of_length_le (by omega)]

theorem lineBreaks_shownTags (tags : List String) :
    lineBreaks (shownTags tags) = tagBreaks tags := by
  cases tags with
  | nil => rfl
  | cons tag tags =>
    have hopen : lineBreaks " (" = 0 := by decide
    have hclose : lineBreaks ")" = 0 := by decide
    have hseparator : lineBreaks ", " = 0 := by decide
    simp [shownTags, tagBreaks, lineBreaks_intercalate hseparator, hopen, hclose]

theorem notMem_firstLine? {s line : List Char} (h : firstLine? s = some line) : '\n' ∉ line := by
  have htake : '\n' ∉ s.takeWhile (· != '\n') := by
    intro hmem
    simpa using List.all_eq_true.mp List.all_takeWhile '\n' hmem
  have hdrop : '\n' ∉ dropReturn (s.takeWhile (· != '\n')) := by
    unfold dropReturn
    split
    · exact fun hmem => htake ((List.dropLast_sublist _).subset hmem)
    · exact htake
  unfold firstLine? at h
  split at h
  · cases h
  · cases h
    split
    · exact htake
    · exact hdrop

/-- A first line that is shown has no line break. -/
theorem lineBreaks_shown_firstLine? {s line : List Char} (h : firstLine? s = some line) :
    lineBreaks (shown line) = 0 := by
  rw [lineBreaks_shown, List.count_eq_zero]
  exact fun hmem => notMem_firstLine? h (List.mem_of_mem_take hmem)

/-! ## Line breaks in lines -/

theorem Node.lineBreaks_shown (n : Node) : lineBreaks n.shown = tagBreaks n.tags := by
  have hsign : lineBreaks n.kind.sign = 0 := by
    cases n.kind <;> decide
  have hblank : lineBreaks " " = 0 := by decide
  have hlabel : lineBreaks (Dramaturgy.shown ((firstLine? n.label.toList).getD [])) = 0 := by
    cases h : firstLine? n.label.toList with
    | none => rfl
    | some line => exact lineBreaks_shown_firstLine? h
  simp [Node.shown, hsign, hblank, hlabel, lineBreaks_shownTags]

mutual

/-- The line of a node has the line breaks of its tags. -/
theorem Tree.lineBreaks_rows {indent : String} (h : lineBreaks indent = 0) (last : Bool) :
    ∀ t : Tree, ∀ row ∈ t.rows indent last, lineBreaks row.2 = tagBreaks row.1.tags
  | .node n below, row, hrow => by
    rw [Tree.rows, List.mem_cons] at hrow
    rcases hrow with rfl | hrow
    · have hconnector : lineBreaks (if last then "└─" else "├─") = 0 := by
        cases last <;> decide
      have hblank : lineBreaks " " = 0 := by decide
      simp [h, hconnector, hblank, n.lineBreaks_shown]
    · refine lineBreaks_rowsAll ?_ below row hrow
      cases last <;> simp only [lineBreaks_append, h] <;> decide

theorem lineBreaks_rowsAll {indent : String} (h : lineBreaks indent = 0) :
    ∀ ts : List Tree, ∀ row ∈ rowsAll indent ts, lineBreaks row.2 = tagBreaks row.1.tags
  | [], row, hrow => by
    rw [rowsAll] at hrow
    cases hrow
  | t :: ts, row, hrow => by
    rw [rowsAll, List.mem_append] at hrow
    rcases hrow with hrow | hrow
    · exact Tree.lineBreaks_rows h _ t row hrow
    · exact lineBreaks_rowsAll h ts row hrow

end

namespace Graph

variable {g : Graph}

theorem lineBreaks_shownEdge (g : Graph) (e : Edge) : lineBreaks (g.shownEdge e)
    = lineBreaks (g.shownEnd e.source) + lineBreaks (g.shownEnd e.target)
      + (e.label.toList.take 30).count '\n' + tagBreaks e.tags := by
  have hsign : lineBreaks "↦ " = 0 := by decide
  have harrow : lineBreaks " → " = 0 := by decide
  have hlabel : lineBreaks (if e.label.isEmpty then "" else ": " ++ shown e.label.toList)
      = (e.label.toList.take 30).count '\n' := by
    have hcolon : lineBreaks ": " = 0 := by decide
    split
    · next hempty =>
      obtain hempty : e.label = "" := String.isEmpty_iff.mp hempty
      rw [hempty]
      rfl
    · rw [lineBreaks_append, hcolon, lineBreaks_shown, Nat.zero_add]
  simp only [shownEdge, lineBreaks_append, hsign, harrow, hlabel, lineBreaks_shownTags]
  omega

/-- An end is shown by its label, and so without a line break, or by its id if it has no label. -/
theorem lineBreaks_shownEnd {id : String} (hmem : ∃ n ∈ g.nodes, n.id = id)
    (hid : ∀ n ∈ g.nodes, n.label = "" → lineBreaks n.id = 0) : lineBreaks (g.shownEnd id) = 0 := by
  obtain ⟨n, hn, rfl⟩ := hmem
  obtain ⟨m, hm⟩ := exists_node? hn
  obtain ⟨hmem, heq⟩ := mem_of_node? hm
  rw [shownEnd, hm, Option.bind_some]
  cases hline : firstLine? m.label.toList with
  | some line => exact lineBreaks_shown_firstLine? hline
  | none =>
    have hlabel : m.label = "" := by
      simpa [firstLine?] using hline
    have hbreaks : n.id.toList.count '\n' = 0 := by
      rw [← heq]
      exact hid m hmem hlabel
    rw [Option.getD_none, lineBreaks_shown, List.count_eq_zero]
    exact fun htake => List.count_eq_zero.mp hbreaks (List.mem_of_mem_take htake)

end Graph

/-! ## Drawings -/

namespace Play

/-- How many line breaks come from the title, from tags, and from the labels of edges. Of the title
and of labels no more than 30 characters are shown. -/
def strayBreaks (p : Play) : Nat :=
  ((p.title.getD "Untitled").toList.take 30).count '\n' +
    (p.graph.nodes.map fun n => tagBreaks n.tags).sum +
    (p.graph.edges.map fun e => (e.label.toList.take 30).count '\n' + tagBreaks e.tags).sum

/-- How many line breaks come from the ends of edges. -/
def endBreaks (p : Play) : Nat :=
  (p.graph.edges.map fun e =>
    lineBreaks (p.graph.shownEnd e.source) + lineBreaks (p.graph.shownEnd e.target)).sum

variable {v : Vocabulary} {script : Script} {p : Play}

/-- Each line ends in a line break, and it may hold others. -/
theorem lineBreaks_drawing_eq_sum (p : Play) : lineBreaks p.drawing
    = p.drawnLines.length + (p.drawnLines.map lineBreaks).sum := by
  have hbreak : lineBreaks "\n" = 1 := by decide
  rw [drawing, lineBreaks_join]
  induction p.drawnLines with
  | nil => rfl
  | cons line lines ih =>
    simp only [List.map_cons, List.sum_cons, List.length_cons, lineBreaks_append, hbreak, ih]
    omega

theorem sum_lineBreaks_rows (h : (p.rows.map (·.1)).Perm p.graph.nodes) :
    ((p.rows.map (·.2)).map lineBreaks).sum
      = (p.graph.nodes.map fun n => tagBreaks n.tags).sum := by
  have hrows : (p.rows.map (·.2)).map lineBreaks
      = (p.rows.map (·.1)).map fun n => tagBreaks n.tags := by
    rw [List.map_map, List.map_map]
    exact List.map_congr_left (lineBreaks_rowsAll rfl p.graph.forest)
  rw [hrows]
  exact (h.map _).sum_nat

theorem sum_lineBreaks_edges (p : Play) :
    ((p.graph.edges.map p.graph.shownEdge).map lineBreaks).sum
      = (p.graph.edges.map fun e => (e.label.toList.take 30).count '\n' + tagBreaks e.tags).sum
        + p.endBreaks := by
  rw [endBreaks]
  induction p.graph.edges with
  | nil => rfl
  | cons e edges ih =>
    simp only [List.map_cons, List.sum_cons, ih, Graph.lineBreaks_shownEdge]
    omega

theorem lineBreaks_drawing_of_perm (h : (p.rows.map (·.1)).Perm p.graph.nodes) :
    lineBreaks p.drawing
      = 1 + p.graph.nodes.length + p.graph.edges.length + p.strayBreaks + p.endBreaks := by
  have hlength : p.rows.length = p.graph.nodes.length := by
    simpa using h.length_eq
  have htitle : lineBreaks p.titleLine = ((p.title.getD "Untitled").toList.take 30).count '\n' := by
    have hsign : lineBreaks "⧉ " = 0 := by decide
    rw [titleLine, lineBreaks_append, hsign, lineBreaks_shown, Nat.zero_add]
  rw [lineBreaks_drawing_eq_sum, drawnLines_eq, strayBreaks]
  simp only [List.map_append, List.map_cons, List.sum_append, List.sum_cons, List.length_append,
    List.length_cons, List.length_map, hlength, htitle, sum_lineBreaks_rows h,
    sum_lineBreaks_edges]
  omega

end Play

/-! ## Plays and casts -/

theorem lineBreaks_repr (k : Nat) : lineBreaks k.repr = 0 := by
  rw [lineBreaks, List.count_eq_zero, Nat.toList_repr]
  intro h
  exact absurd (Nat.isDigit_of_mem_toDigits (by decide) (by decide) h) (by decide)

namespace Vocabulary

variable {v : Vocabulary} {scenes : List (List (Event Character))} {n : Node}

theorem lineBreaks_sceneId (hact : lineBreaks v.actHeading = 0)
    (hscene : lineBreaks v.sceneHeading = 0) (act scene : Nat) :
    lineBreaks (v.sceneId act scene) = 0 := by
  have hdot : lineBreaks "." = 0 := by decide
  simp [sceneId, actLabel, sceneLabel, hact, hscene, hdot, lineBreaks_repr]

/-- The id of a node without a label holds only headings and numbers. -/
theorem lineBreaks_id_of_label (hact : lineBreaks v.actHeading = 0)
    (hscene : lineBreaks v.sceneHeading = 0) (hn : n ∈ (v.outline scenes).nodes)
    (hlabel : n.label = "") : lineBreaks n.id = 0 := by
  have hdot : lineBreaks "." = 0 := by decide
  rcases mem_nodes_outline_cases hn with ⟨i, rfl⟩ | ⟨i, events, -, hmem⟩
  · exact lineBreaks_sceneId hact hscene 1 (i + 1)
  · rcases mem_nodes_cases hmem with ⟨past, text, rest, -, rfl⟩ | ⟨c, -, rfl⟩
    · simp [Node.ofDirection, localId, lineBreaks_sceneId hact hscene, hdot, lineBreaks_repr]
    · have hname : c.name = "" := hlabel
      simp [Node.ofCharacter, localId, lineBreaks_sceneId hact hscene, hdot, hname]

end Vocabulary

theorem Graph.edges_built_nodes (nodes : List Node) :
    (built (nodes.map Addition.node)).edges = [] := by
  induction nodes using List.reverseRecOn with
  | nil => rfl
  | append_singleton nodes n ih =>
    rw [List.map_append, List.map_singleton, built_append_singleton, add]
    cases h : (built (nodes.map Addition.node)).addNode n with
    | error fault => exact ih
    | ok added =>
      unfold addNode at h
      split at h
      · cases h
        exact ih
      · split at h
        · cases h
          exact ih
        · cases h

namespace Play

variable {v : Vocabulary} {script : Script} {p : Play}

theorem rows_perm_of_perform (h : (script.perform v).outcome = .ok p) :
    (p.rows.map (·.1)).Perm p.graph.nodes := by
  obtain ⟨-, scenes, -, hus, rfl⟩ := Script.perform_eq_ok_iff.mp h
  have hform := Vocabulary.wellFormed_outline (v := v) hus
  exact rows_perm hform.distinct fun n hn => hform.rooted hn

theorem endBreaks_eq_zero_of_perform (h : (script.perform v).outcome = .ok p)
    (hact : lineBreaks v.actHeading = 0) (hscene : lineBreaks v.sceneHeading = 0) :
    p.endBreaks = 0 := by
  obtain ⟨-, scenes, -, -, rfl⟩ := Script.perform_eq_ok_iff.mp h
  have hid : ∀ n ∈ (v.outline scenes).nodes, n.label = "" → lineBreaks n.id = 0 :=
    fun n hn => Vocabulary.lineBreaks_id_of_label hact hscene hn
  rw [endBreaks, List.sum_eq_zero_iff_forall_eq_nat]
  intro breaks hbreaks
  obtain ⟨e, he, rfl⟩ := List.mem_map.mp hbreaks
  obtain ⟨a, ha, b, hb, hsource, htarget, -⟩ := Vocabulary.ends_outline he
  show lineBreaks ((v.outline scenes).shownEnd _) + lineBreaks ((v.outline scenes).shownEnd _) = 0
  rw [Graph.lineBreaks_shownEnd ⟨a, ha, hsource⟩ hid,
    Graph.lineBreaks_shownEnd ⟨b, hb, htarget⟩ hid]

/-- The cast of a script is that of its roster. -/
theorem exists_roster_of_cast (h : (script.cast v).outcome = .ok p) :
    ∃ roster : Roster, roster.cast.outcome = .ok p.graph := by
  rw [Script.cast, Report.outcome_andThen] at h
  cases hroster : (script.roster v).outcome with
  | error fault =>
    rw [hroster] at h
    cases h
  | ok roster =>
    simp only [hroster, Except.bind, Report.outcome_andThen] at h
    cases hcast : roster.cast.outcome with
    | error fault =>
      rw [hcast] at h
      cases h
    | ok g =>
      rw [hcast] at h
      cases h
      exact ⟨roster, hcast⟩

theorem rows_perm_of_cast (h : (script.cast v).outcome = .ok p) :
    (p.rows.map (·.1)).Perm p.graph.nodes := by
  obtain ⟨roster, hcast⟩ := exists_roster_of_cast h
  refine rows_perm ?_ fun n hn => Roster.rooted_of_cast hcast hn
  rw [Roster.cast_eq_built hcast]
  exact Graph.nodup_ids_built _

theorem endBreaks_eq_zero_of_cast (h : (script.cast v).outcome = .ok p) : p.endBreaks = 0 := by
  obtain ⟨roster, hcast⟩ := exists_roster_of_cast h
  have hedges : p.graph.edges = [] := by
    rw [Roster.cast_eq_built hcast]
    exact Graph.edges_built_nodes _
  rw [endBreaks, hedges]
  rfl

/-- **How many lines a drawing has.** One for the title, one for each node and one for each edge,
and one more for each line break in what is shown of the title, the tags, and the labels of edges.
The ends of edges add lines only if the headings have line breaks. -/
theorem lineBreaks_drawing
    (h : (script.perform v).outcome = .ok p ∨ (script.cast v).outcome = .ok p) :
    lineBreaks p.drawing
        = 1 + p.graph.nodes.length + p.graph.edges.length + p.strayBreaks + p.endBreaks ∧
      (lineBreaks v.actHeading = 0 → lineBreaks v.sceneHeading = 0 → p.endBreaks = 0) := by
  rcases h with h | h
  · exact ⟨lineBreaks_drawing_of_perm (rows_perm_of_perform h), endBreaks_eq_zero_of_perform h⟩
  · exact ⟨lineBreaks_drawing_of_perm (rows_perm_of_cast h), fun _ _ => endBreaks_eq_zero_of_cast h⟩

/-- A script in which Alice says two lines at once. -/
def twoLines : Script where
  title := some "Greeting"
  characters := [.single "Alice" "A. [User]", .single "Bob" "B."]
  plot :=
    [.single "ACT 1"
      [.scene (.single "SCENE 1" [.speech (.single "Alice" ["(To Bob)Hi\nthere."])])]]

theorem lineBreaks_drawing_twoLines :
    (∃ p, (twoLines.perform {}).outcome = .ok p ∧ p.strayBreaks = 1 ∧
      lineBreaks p.drawing
        = 1 + p.graph.nodes.length + p.graph.edges.length + p.strayBreaks + p.endBreaks ∧
      p.endBreaks = 0) ∧
    ∃ p, (twoLines.cast {}).outcome = .ok p ∧ p.strayBreaks = 0 ∧ lineBreaks p.drawing
        = 1 + p.graph.nodes.length + p.graph.edges.length + p.strayBreaks + p.endBreaks := by
  obtain ⟨p, hplay, hstray⟩ : ∃ p, (twoLines.perform {}).outcome = .ok p ∧ p.strayBreaks = 1 :=
    ⟨_, rfl, rfl⟩
  obtain ⟨q, hcast, hnone⟩ : ∃ q, (twoLines.cast {}).outcome = .ok q ∧ q.strayBreaks = 0 :=
    ⟨_, rfl, rfl⟩
  have hlines := lineBreaks_drawing (.inl hplay)
  exact ⟨⟨p, hplay, hstray, hlines.1, hlines.2 rfl rfl⟩, q, hcast, hnone,
    (lineBreaks_drawing (.inr hcast)).1⟩

/-- The lines are not always those of the title, the nodes and the edges. -/
theorem not_forall_one_line_each : ¬∀ (v : Vocabulary) (script : Script) (p : Play),
    (script.perform v).outcome = .ok p →
      lineBreaks p.drawing = 1 + p.graph.nodes.length + p.graph.edges.length := by
  intro h
  obtain ⟨p, hplay, hstray⟩ : ∃ p, (twoLines.perform {}).outcome = .ok p ∧ p.strayBreaks = 1 :=
    ⟨_, rfl, rfl⟩
  have hlines := h {} twoLines p hplay
  have hall := lineBreaks_drawing_of_perm (rows_perm_of_perform hplay)
  omega

end Play

end Dramaturgy
