import Dramaturgy.Yaml.Lexer
import Dramaturgy.Yaml.Node

/-!
# Documents

The document that some tokens write. Readers take tokens from a `Pending`, which also knows what tag
handles mean and which anchors have been given out. They call one another along the nesting of the
nodes; each call takes a token, or is followed by one that does, so that twice the number of tokens
bounds the calls.
-/

namespace Dramaturgy.Yaml

/-- Tokens that are still to be read. -/
structure Pending where
  tokens : List Token
  /-- The meanings of tag handles. -/
  handles : List (String × String) := []
  /-- The numbers of anchors, by name. -/
  anchors : List (String × Nat) := []

/-- A reader of tokens. -/
abbrev Reader (α : Type) := StateT Pending Option α

namespace Reader

/-- The next token. -/
def peek : Reader (Option Token) := do
  return (← get).tokens.head?

/-- Drops the next token. -/
def skip : Reader Unit :=
  modify fun p => { p with tokens := p.tokens.tail }

/-- The number of a new anchor. A name that has one gets another; numbers count the names. -/
def newAnchor (name : String) : Reader Nat := do
  let p ← get
  let number := p.anchors.length
  set { p with anchors := (name, number) :: p.anchors.filter (·.1 != name) }
  return number

/-- The number of an anchor, which must have been given out. -/
def anchorOf (name : String) : Reader Nat := do
  match (← get).anchors.lookup name with
  | some number => return number
  | none => failure

/-- The meaning of a written tag. -/
def tagOf (tag : WrittenTag) : Reader String := do
  if tag.handle.isEmpty then
    return tag.suffix
  else
    match (← get).handles.lookup tag.handle with
    | some start => return start ++ tag.suffix
    | none => failure

/-- Reads the anchor and the tag of a node, which come in either order. -/
def properties : Reader (Option String × Option WrittenTag) := do
  match ← peek with
  | some (.anchor name) =>
    skip
    match ← peek with
    | some (.tag tag) => skip; return (some name, some tag)
    | _ => return (some name, none)
  | some (.tag tag) =>
    skip
    match ← peek with
    | some (.anchor name) => skip; return (some name, some tag)
    | _ => return (none, some tag)
  | _ => return (none, none)

/-- A node that is left out. -/
def leftOut : Node :=
  .scalar none none true ""

/-- Whether there is no node before a token in a block mapping. -/
def endsBlockPart : Option Token → Bool
  | some .key | some .value | some .blockEnd | none => true
  | _ => false

/-- Whether there is no node before a token in a flow mapping. -/
def endsFlowPart : Option Token → Bool
  | some .flowEntry | some .flowMappingEnd | none => true
  | _ => false

mutual

/-- Reads a node. As a part of a block mapping, a sequence need not be indented. -/
def node (unindented : Bool) : Nat → Reader Node
  | 0 => failure
  | calls + 1 => do
    match ← peek with
    | some (.alias name) =>
      let number ← anchorOf name
      skip
      return .alias number
    | _ =>
      let (name, written) ← properties
      let tag ← written.mapM tagOf
      let anchor ← name.mapM newAnchor
      match ← peek with
      | some (.scalar plain text) =>
        skip
        return .scalar anchor tag plain text
      | some .flowSequenceStart =>
        skip
        return .sequence anchor tag (← flowItems true calls)
      | some .flowMappingStart =>
        skip
        return .mapping anchor tag (← flowEntries true calls)
      | some .blockSequenceStart =>
        skip
        return .sequence anchor tag (← blockItems calls)
      | some .blockMappingStart =>
        skip
        return .mapping anchor tag (← blockEntries calls)
      | next =>
        if unindented && next == some .blockEntry then
          return .sequence anchor tag (← unindentedItems calls)
        else if anchor.isSome || tag.isSome then
          return .scalar anchor tag true ""
        else
          failure

/-- Reads the items of a block sequence to its end. -/
def blockItems : Nat → Reader (List Node)
  | 0 => failure
  | calls + 1 => do
    match ← peek with
    | some .blockEntry =>
      skip
      match ← peek with
      | some .blockEntry | some .blockEnd => return leftOut :: (← blockItems calls)
      | _ =>
        let item ← node false calls
        return item :: (← blockItems calls)
    | some .blockEnd =>
      skip
      return []
    | _ => failure

/-- Reads the items of a sequence that is not indented. -/
def unindentedItems : Nat → Reader (List Node)
  | 0 => failure
  | calls + 1 => do
    match ← peek with
    | some .blockEntry =>
      skip
      match ← peek with
      | some .blockEntry | some .key | some .value | some .blockEnd =>
        return leftOut :: (← unindentedItems calls)
      | _ =>
        let item ← node false calls
        return item :: (← unindentedItems calls)
    | _ => return []

/-- Reads a key or a value of a block mapping, after its mark. -/
def blockPart : Nat → Reader Node
  | 0 => failure
  | calls + 1 => do
    if endsBlockPart (← peek) then
      return leftOut
    else
      node true calls

/-- Reads the entries of a block mapping to its end. -/
def blockEntries : Nat → Reader (List (Node × Node))
  | 0 => failure
  | calls + 1 => do
    match ← peek with
    | some .blockEnd =>
      skip
      return []
    | some .key =>
      skip
      let key ← blockPart calls
      match ← peek with
      | some .value =>
        skip
        let value ← blockPart calls
        return (key, value) :: (← blockEntries calls)
      | _ => return (key, leftOut) :: (← blockEntries calls)
    | _ => failure

/-- Reads the items of a flow sequence to its end. -/
def flowItems (isFirst : Bool) : Nat → Reader (List Node)
  | 0 => failure
  | calls + 1 => do
    match ← peek with
    | some .flowSequenceEnd =>
      skip
      return []
    | some .flowEntry =>
      if isFirst then
        failure
      else
        skip
        flowItem calls
    | _ => if isFirst then flowItem calls else failure

/-- Reads an item of a flow sequence and all after it. An item may be a mapping of one key. -/
def flowItem : Nat → Reader (List Node)
  | 0 => failure
  | calls + 1 => do
    match ← peek with
    | some .flowSequenceEnd =>
      skip
      return []
    | some .key =>
      skip
      let entry ← flowPair calls
      return .mapping none none [entry] :: (← flowItems false calls)
    | _ =>
      let item ← node false calls
      return item :: (← flowItems false calls)

/-- Reads the key and the value of a mapping that is an item of a flow sequence. Where the key is
left out, so is the token that follows its mark. -/
def flowPair : Nat → Reader (Node × Node)
  | 0 => failure
  | calls + 1 => do
    let key ← match ← peek with
      | some .value | some .flowEntry | some .flowSequenceEnd => skip; pure leftOut
      | _ => node false calls
    match ← peek with
    | some .value =>
      skip
      match ← peek with
      | some .flowEntry | some .flowSequenceEnd => return (key, leftOut)
      | _ => return (key, ← node false calls)
    | _ => return (key, leftOut)

/-- Reads the entries of a flow mapping to its end. -/
def flowEntries (isFirst : Bool) : Nat → Reader (List (Node × Node))
  | 0 => failure
  | calls + 1 => do
    match ← peek with
    | some .flowMappingEnd =>
      skip
      return []
    | some .flowEntry =>
      if isFirst then
        failure
      else
        skip
        flowMember calls
    | _ => if isFirst then flowMember calls else failure

/-- Reads an entry of a flow mapping and all after it. -/
def flowMember : Nat → Reader (List (Node × Node))
  | 0 => failure
  | calls + 1 => do
    match ← peek with
    | some .flowMappingEnd =>
      skip
      return []
    | some .key =>
      skip
      let key ← match ← peek with
        | some .value | some .flowEntry | some .flowMappingEnd => pure leftOut
        | _ => node false calls
      match ← peek with
      | some .value =>
        skip
        let value ← if endsFlowPart (← peek) then pure leftOut else node false calls
        return (key, value) :: (← flowEntries false calls)
      | _ => return (key, leftOut) :: (← flowEntries false calls)
    | _ =>
      let key ← node false calls
      return (key, leftOut) :: (← flowEntries false calls)

end

/-- Reads the directives before a document: at most one version, which must be 1.1 or 1.2, and at
most one meaning for each handle. -/
def directives (version : Bool) (handles : List (String × String)) :
    List Token → Option (List (String × String) × List Token)
  | .versionDirective major minor :: ts =>
    if version || major != 1 || (minor != 1 && minor != 2) then none
    else directives true handles ts
  | .tagDirective handle start :: ts =>
    if handles.any (·.1 == handle) then none
    else directives version ((handle, start) :: handles) ts
  | ts => some (handles, ts)

/-- What handles mean unless a directive gives them another meaning. -/
def standardHandles : List (String × String) :=
  [("!", "!"), ("!!", "tag:yaml.org,2002:")]

/-- Reads the node of a document, after its start. -/
def root : Reader Node := do
  let calls := 2 * (← get).tokens.length + 2
  match ← peek with
  | none | some .documentStart | some .documentEnd => return leftOut
  | some (.versionDirective ..) | some (.tagDirective ..) => return leftOut
  | _ => node false calls

end Reader

/-- The node of the only document that some tokens write. -/
def Node.ofTokens? (tokens : List Token) : Option Node := do
  let (handles, rest) ← Reader.directives false [] tokens
  let tokens ← match rest with
    | .documentStart :: rest => some rest
    | [] => none
    | _ => if tokens.length = rest.length && rest.head? != some .documentEnd then some rest else none
  let (node, pending) ← Reader.root.run { tokens, handles := handles ++ Reader.standardHandles }
  if pending.tokens.all (· == .documentEnd) then some node else none

end Dramaturgy.Yaml
