import Dramaturgy.Yaml.Token

/-!
# Nodes of a YAML document

A node is a scalar, a list, a mapping, or a reference to another node by the number of its anchor. A
number may be given to more than one node, and then it stands for the last one, wherever the
reference is.
-/

namespace Dramaturgy.Yaml

/-- A node of a YAML document. -/
inductive Node where
  /-- A scalar; `plain` says whether it is written without quotes and not as a block. -/
  | scalar (anchor : Option Nat) (tag : Option String) (plain : Bool) (text : String)
  | sequence (anchor : Option Nat) (tag : Option String) (items : List Node)
  | mapping (anchor : Option Nat) (tag : Option String) (entries : List (Node × Node))
  | alias (anchor : Nat)
deriving Repr, Inhabited

namespace Node

mutual

/-- The nodes with an anchor, in their order in the document. -/
def anchored : Node → List (Nat × Node)
  | .scalar anchor tag plain text =>
    anchor.toList.map fun n => (n, .scalar anchor tag plain text)
  | .sequence anchor tag items =>
    (anchor.toList.map fun n => (n, .sequence anchor tag items)) ++ anchoredItems items
  | .mapping anchor tag entries =>
    (anchor.toList.map fun n => (n, .mapping anchor tag entries)) ++ anchoredEntries entries
  | .alias _ => []

/-- The nodes with an anchor in a list. -/
def anchoredItems : List Node → List (Nat × Node)
  | [] => []
  | item :: items => item.anchored ++ anchoredItems items

/-- The nodes with an anchor in a mapping. -/
def anchoredEntries : List (Node × Node) → List (Nat × Node)
  | [] => []
  | (key, value) :: entries => key.anchored ++ value.anchored ++ anchoredEntries entries

end

mutual

/-- How large a node is: one for a scalar or a reference, two more than its parts for the rest. -/
def weight : Node → Nat
  | .scalar .. => 1
  | .alias _ => 1
  | .sequence _ _ items => 2 + weightItems items
  | .mapping _ _ entries => 2 + weightEntries entries

/-- How large the items of a list are. -/
def weightItems : List Node → Nat
  | [] => 0
  | item :: items => item.weight + weightItems items

/-- How large the entries of a mapping are. -/
def weightEntries : List (Node × Node) → Nat
  | [] => 0
  | (key, value) :: entries => key.weight + value.weight + weightEntries entries

end

end Node

end Dramaturgy.Yaml
