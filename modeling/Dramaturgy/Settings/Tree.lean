import Dramaturgy.Entries
import Dramaturgy.Toml.Value

/-!
# Trees of settings

Settings from several places are laid over one another in one tree, which is a TOML value. Small and
capital letters of keys are not told apart. A table is laid over what is there entry by entry; all
else takes its place. Each recursion is on the value that is laid over the tree or on a path of keys.
-/

namespace Dramaturgy.Settings

open Toml (Value)

/-- The key in small letters. Only the keys of the settings count in the end, which have no letters
but those from a to z. -/
def smallKey (key : String) : String :=
  key.map Char.toLower

/-- The entries of a table. What is not a table has none. -/
def entries : Value → List (String × Value)
  | .table es => es
  | _ => []

/-- Changes what is under a key, which is an empty table if there is nothing. What is not a table
becomes one. -/
def update (key : String) (change : Value → Value) (tree : Value) : Value :=
  let key := smallKey key
  let old := ((entries tree).lookup key).getD (.table [])
  .table (putEntry key (change old) (entries tree))

mutual

/-- Lays a value over a tree. -/
def overlay : Value → Value → Value
  | .table es, tree => overlayEntries es tree
  | value, _ => value

/-- Lays the entries of a table over a tree, one after the other. -/
def overlayEntries : List (String × Value) → Value → Value
  | [], tree => tree
  | (key, value) :: rest, tree => overlayEntries rest (update key (overlay value) tree)

end

/-! ## Paths of keys -/

/-- Whether a key in a path may hold a character. -/
def isPathChar (c : Char) : Bool :=
  c.isAlphanum || c == ' ' || c == '_' || c == '-'

/-- The keys of a path that is written with dots. -/
def pathFrom? (letters : List Char) : List Char → Option (List String)
  | [] => if letters.isEmpty then none else some [String.ofList letters.reverse]
  | c :: s =>
    if c = '.' then
      if letters.isEmpty then none
      else (pathFrom? [] s).map fun path => String.ofList letters.reverse :: path
    else if isPathChar c then pathFrom? (c :: letters) s
    else none

/-- The keys of a path that is written with dots. -/
def path? (key : String) : Option (List String) :=
  pathFrom? [] key.toList

/-- Lays a value over what a path leads to. -/
def overlayAt (value : Value) : List String → Value → Value
  | [], tree => overlay value tree
  | key :: path, tree => update key (overlayAt value path) tree

/-- Lays a document over a tree. A key of the document itself may be a path of keys. -/
def overlayDocument (document tree : Value) : Value :=
  (entries document).foldl
    (fun tree (key, value) => overlayAt value ((path? key).getD [key]) tree) tree

end Dramaturgy.Settings
