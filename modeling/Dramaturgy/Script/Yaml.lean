import Dramaturgy.Script
import Dramaturgy.Yaml.Denotation
import Dramaturgy.Yaml.Document

/-!
# Scripts as YAML documents

A script given as a YAML document has the form of the JSON one, and is read in two ways. Down to the
list of scenes of an act the form is fixed, so that any scalar is a text and a list or a mapping may
be left out. From there on a text and a mapping are told apart by the document itself, so that a plain
scalar must denote a text, and nothing can be left out.

References to anchored nodes are followed. How many may be followed is bounded by the size of the
document, so that a small document cannot stand for a huge script.
-/

namespace Dramaturgy

namespace Yaml

/-- A document: its node, and the nodes of its anchors. -/
structure Document where
  root : Node
  anchored : List (Nat × Node)

/-- The document of a node. Of several nodes with one number the last one counts. -/
def Document.ofRoot (root : Node) : Document :=
  { root, anchored := root.anchored.reverse }

/-- How many references may be followed. -/
def Document.allowance (d : Document) : Nat :=
  100 * d.root.weight

/-- Reads a part of a document. The state is how many references may still be followed. -/
abbrev Decoder (α : Type) := ReaderT Document (StateT Nat Option) α

namespace Decoder

/-- The node that a reference stands for; every other node stands for itself. -/
def follow (n : Node) : Decoder Node := do
  match n with
  | .alias number =>
    match ← get with
    | 0 => failure
    | left + 1 =>
      set left
      match (← read).anchored.lookup number with
      | some target => return target
      | none => failure
  | n => return n

/-- A record, given its entries. -/
def record {α : Type} (key : Node → Decoder String) (value : Node → Decoder α)
    (entries : List (Node × Node)) : Decoder (Record α) := do
  return Record.ofList (← entries.mapM fun e => do return (← key e.1, ← value e.2))

/-! ## Parts of a fixed form -/

/-- Whether a node is left out. -/
def isLeftOut : Node → Bool
  | .scalar _ _ true "" => true
  | _ => false

/-- Any scalar, by its text. -/
def text (n : Node) : Decoder String := do
  match ← follow n with
  | .scalar _ _ _ text => return text
  | _ => failure

/-- A list, which may be left out. -/
def list {α : Type} (item : Node → Decoder α) (n : Node) : Decoder (List α) := do
  match ← follow n with
  | .sequence _ _ items => items.mapM item
  | n => if isLeftOut n then return [] else failure

/-- A mapping, which may be left out. -/
def mapping {α : Type} (value : Node → Decoder α) (n : Node) : Decoder (Record α) := do
  match ← follow n with
  | .mapping _ _ entries => record text value entries
  | n => if isLeftOut n then return Record.empty else failure

/-- A text that may be null. With a tag a plain scalar is null only if the tag says so. -/
def textOrNull (n : Node) : Decoder (Option String) := do
  match ← follow n with
  | .scalar _ tag plain text =>
    if !plain then return some text
    else
      match tag with
      | none => return if isNull text then none else some text
      | some "tag:yaml.org,2002:null" => if isNull text && !text.isEmpty then return none else failure
      | some _ => return some text
  | _ => failure

/-! ## Parts whose form the document decides -/

/-- Whether a tag is one of a document's own, which nothing here has. -/
def isOwnTag (tag : Option String) : Bool :=
  tag.any fun t => t.toList.head? == some '!'

/-- Whether a scalar is a text: with a tag, if that is not the tag of another kind of value; in a plain
scalar without one, if it denotes its own text. -/
def isText (tag : Option String) (plain : Bool) (text : String) : Bool :=
  match tag with
  | none => !plain || denotesText text
  | some t =>
    let kinds := ["bool", "int", "float", "null"]
    !isOwnTag tag && kinds.all fun kind => t != "tag:yaml.org,2002:" ++ kind

/-- A scalar that is a text. -/
def ownText (n : Node) : Decoder String := do
  match ← follow n with
  | .scalar _ tag plain text => if isText tag plain text then return text else failure
  | _ => failure

/-- A list that is not left out. -/
def ownList {α : Type} (item : Node → Decoder α) (n : Node) : Decoder (List α) := do
  match ← follow n with
  | .sequence _ tag items => if isOwnTag tag then failure else items.mapM item
  | _ => failure

/-- A text, or a mapping of lists. -/
def textOrLists {α β : Type} (ofText : String → α) (ofLists : Record (List β) → α)
    (item : Node → Decoder β) (n : Node) : Decoder α := do
  match ← follow n with
  | .mapping _ tag entries =>
    if isOwnTag tag then failure else return ofLists (← record ownText (ownList item) entries)
  | n => return ofText (← ownText n)

/-- A remark. -/
def remark (n : Node) : Decoder Remark :=
  textOrLists .direction .speech ownText n

/-- An entry of an act. -/
def sceneEntry (n : Node) : Decoder SceneEntry :=
  textOrLists .marker .scene remark n

/-! ## The script -/

/-- What has been read of a script. A part that has been read may not come again. -/
structure Parts where
  title : Option (Option String) := none
  author : Option (Option String) := none
  synopsis : Option (Option String) := none
  characters : Option (List (Record String)) := none
  plot : Option (List (Record (List SceneEntry))) := none

/-- Reads a part that has not been read before. -/
def once {α : Type} (before : Option α) (decode : Node → Decoder α) (n : Node) :
    Decoder (Option α) := do
  match before with
  | some _ => failure
  | none => return some (← decode n)

/-- Reads an entry of the document. Entries with other keys are ignored. -/
def part (parts : Parts) (entry : Node × Node) : Decoder Parts := do
  match ← text entry.1 with
  | "TITLE" => return { parts with title := ← once parts.title textOrNull entry.2 }
  | "BY" => return { parts with author := ← once parts.author textOrNull entry.2 }
  | "SYNOPSIS" => return { parts with synopsis := ← once parts.synopsis textOrNull entry.2 }
  | "CHARACTERS" =>
    return { parts with characters := ← once parts.characters (list (mapping text)) entry.2 }
  | "PLOT" =>
    return { parts with plot := ← once parts.plot (list (mapping (list sceneEntry))) entry.2 }
  | _ => return parts

/-- The script that a document holds. -/
def script (n : Node) : Decoder Script := do
  match n with
  | .mapping _ _ entries =>
    let parts ← entries.foldlM part {}
    match parts.plot with
    | none => failure
    | some plot =>
      return {
        title := parts.title.getD none
        author := parts.author.getD none
        synopsis := parts.synopsis.getD none
        characters := parts.characters.getD []
        plot }
  | _ => failure

end Decoder

end Yaml

/-- The script that a YAML text holds. -/
def Script.ofYaml? (text : String) : Option Script := do
  let document := Yaml.Document.ofRoot (← Yaml.Node.ofTokens? (← Yaml.tokens? text))
  let (script, _) ← ((Yaml.Decoder.script document.root).run document).run document.allowance
  some script

end Dramaturgy
