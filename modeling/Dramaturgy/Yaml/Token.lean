/-!
# Tokens of a YAML text

What a YAML text is made of, before it is known which nodes the tokens belong to. Indentation has
become tokens too: a block collection has a token where it starts and one where it ends.
-/

namespace Dramaturgy.Yaml

/-- A tag as it is written: the handle and what follows it. A verbatim tag has the empty handle. -/
structure WrittenTag where
  handle : String
  suffix : String
deriving DecidableEq, Repr

/-- The tokens of a YAML text. -/
inductive Token where
  | versionDirective (major minor : Nat)
  | tagDirective (handle uri : String)
  | documentStart
  | documentEnd
  | blockSequenceStart
  | blockMappingStart
  | blockEnd
  | flowSequenceStart
  | flowSequenceEnd
  | flowMappingStart
  | flowMappingEnd
  | blockEntry
  | flowEntry
  | key
  | value
  | alias (name : String)
  | anchor (name : String)
  | tag (tag : WrittenTag)
  /-- A scalar; `plain` says whether it is written without quotes and not as a block. -/
  | scalar (plain : Bool) (text : String)
deriving DecidableEq, Repr, Inhabited

end Dramaturgy.Yaml
