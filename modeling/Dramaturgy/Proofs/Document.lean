import Dramaturgy.Format.Document
import Dramaturgy.Proofs.Json
import Dramaturgy.Script.Json

/-!
# A play read back from its document

`Play.ofDocument?` reads a play from the text of a JSON document. It looks up the fields by their
names and does not ask how the text is laid out. `ofDocument?_document` says that it finds all of a
play in the document of that play but the roster, which is not written down: the texts about the
play, its nodes and its edges, with all there is to each of them and in their order.
-/

namespace Dramaturgy

/-! ## Reading -/

/-- The kind of the given name. -/
def NodeKind.ofName? : String → Option NodeKind
  | "scene" => some .scene
  | "direction" => some .direction
  | "character" => some .character
  | _ => none

/-- A list of strings in a field of an object. -/
def Json.tags? (json : Json) : Option (List String) :=
  (json.field? "tags").bind (list? string?)

/-- The node that a JSON object describes. -/
def Node.ofJson? (json : Json) : Option Node := do
  let id ← (json.field? "id").bind Json.string?
  let kind ← ((json.field? "kind").bind Json.string?).bind NodeKind.ofName?
  let label ← (json.field? "label").bind Json.string?
  let parent ← Json.text? (json.field? "parent")
  let tags ← json.tags?
  some { id, kind, label, parent, tags }

/-- The edge that a JSON object describes. -/
def Edge.ofJson? (json : Json) : Option Edge := do
  let source ← (json.field? "source").bind Json.string?
  let target ← (json.field? "target").bind Json.string?
  let label ← (json.field? "label").bind Json.string?
  let tags ← json.tags?
  some { source, target, label, tags }

/-- The play that a JSON object describes. There is no roster in it. -/
def Play.ofJson? (json : Json) : Option Play := do
  let title ← Json.text? (json.field? "title")
  let author ← Json.text? (json.field? "by")
  let synopsis ← Json.text? (json.field? "synopsis")
  let nodes ← (json.field? "nodes").bind (Json.list? Node.ofJson?)
  let edges ← (json.field? "edges").bind (Json.list? Edge.ofJson?)
  some { title, author, synopsis, graph := { nodes, edges } }

/-- The play that a document describes. -/
def Play.ofDocument? (document : String) : Option Play :=
  (Json.parse? document).bind ofJson?

/-! ## Reading what is written -/

namespace Json

theorem list?_map {α : Type} {item? : Json → Option α} {toJson : α → Json}
    (h : ∀ a, item? (toJson a) = some a) (as : List α) :
    list? item? (.array (as.map toJson)) = some as := by
  rw [list?, List.mapM_map]
  induction as with
  | nil => rfl
  | cons a as ih => simp [h, ih]

theorem list?_strings (values : List String) : list? string? (strings values) = some values := by
  have hstring : ∀ s, string? (.string s) = some s := fun _ => rfl
  exact list?_map hstring values

@[simp] theorem legible_strings (values : List String) : Legible (strings values).tokens := by
  simp [strings]

theorem text?_ofOption (value : Option String) : text? (some (ofOption value)) = some value := by
  cases value <;> rfl

end Json

theorem NodeKind.ofName?_name (kind : NodeKind) : ofName? kind.name = some kind := by
  cases kind <;> rfl

theorem Node.ofJson?_toJson (n : Node) : ofJson? n.toJson = some n := by
  obtain ⟨id, kind, label, parent, tags⟩ := n
  cases parent <;> simp [ofJson?, toJson, Json.field?, Json.tags?, List.lookup_cons, Json.string?,
    Json.text?, NodeKind.ofName?_name, Json.list?_strings]

theorem Edge.ofJson?_toJson (e : Edge) : ofJson? e.toJson = some e := by
  simp [ofJson?, toJson, Json.field?, Json.tags?, List.lookup_cons, Json.string?,
    Json.list?_strings]

namespace Play

theorem ofJson?_toJson (p : Play) : ofJson? p.toJson = some { p with roster := {} } := by
  simp [ofJson?, toJson, Json.field?, List.lookup_cons, Json.text?_ofOption,
    Json.list?_map Node.ofJson?_toJson, Json.list?_map Edge.ofJson?_toJson]

/-- There are no numbers in a document. -/
theorem legible_toJson (p : Play) : Json.Legible p.toJson.tokens := by
  have hoption : ∀ value, Json.Legible (Json.ofOption value).tokens := by
    intro value
    cases value <;> simp [Json.ofOption]
  have hnode : ∀ n : Node, Json.Legible n.toJson.tokens := by
    rintro ⟨id, kind, label, parent, tags⟩
    cases parent <;> simp [Node.toJson]
  have hedge : ∀ e : Edge, Json.Legible e.toJson.tokens := by
    simp [Edge.toJson]
  simp [toJson, hoption, hnode, hedge]

theorem parse?_document (layout : Json.Layout) (p : Play) :
    Json.parse? (p.document layout) = some p.toJson :=
  Json.parse?_render p.legible_toJson layout

theorem ofDocument?_eq (layout : Json.Layout) (p : Play) :
    ofDocument? (p.document layout) = some { p with roster := {} } := by
  rw [ofDocument?, parse?_document, Option.bind_some, ofJson?_toJson]

/-- **A document loses nothing.** All of a play but its roster is read back from its document, in
whichever layout that is written. So plays with one document do not differ but for the roster, and
both layouts are the same document. -/
theorem ofDocument?_document :
    (∀ layout (p : Play), ofDocument? (p.document layout) = some { p with roster := {} }) ∧
    (∀ layout layout' (p q : Play), p.document layout = q.document layout' →
      ({ p with roster := {} } : Play) = { q with roster := {} }) ∧
    ∀ layout (p : Play), Json.parse? (p.document layout) = some p.toJson := by
  refine ⟨ofDocument?_eq, fun layout layout' p q h => ?_, parse?_document⟩
  have hread : ofDocument? (p.document layout) = ofDocument? (q.document layout') := by rw [h]
  rw [ofDocument?_eq, ofDocument?_eq] at hread
  exact Option.some_inj.mp hread

/-- A play with texts that cannot be written as they are, and one that is missing. -/
def quoted : Play where
  title := some "\"Who\\what?\"\n"
  synopsis := some ""
  graph :=
    { nodes :=
        [{ id := "a", kind := .scene, label := "\u0001\t", parent := some "", tags := ["ü"] },
          { id := "b", kind := .character, label := "null" }]
      edges := [{ source := "b", target := "a" }] }

theorem ofDocument?_document_quoted :
    ofDocument? (quoted.document .indented) = some quoted ∧
    ∃ cast : Play, cast ≠ quoted ∧ cast.document .compact = quoted.document .compact ∧
      ({ cast with roster := {} } : Play) = quoted :=
  ⟨ofDocument?_document.1 .indented quoted,
    { quoted with roster := { characters := [{ name := "Ann", description := "" }] } }, by decide,
    rfl, ofDocument?_document.2.1 .compact .compact _ quoted rfl⟩

end Play

end Dramaturgy
