import Dramaturgy.Text.Blank
import Dramaturgy.Text.Marker
import Dramaturgy.Vocabulary

/-!
# Bracketed text

A pair of brackets serves two purposes in a script: after some text it holds a list of tags, and
around a whole line it makes the line a stage direction. None of the functions here can fail. A
bracket that is never closed is ordinary text, and it is for the caller to remark on that.
-/

namespace Dramaturgy

open Text

/-- What a look for brackets in a text finds. -/
inductive Bracketed where
  /-- No bracket is opened. -/
  | plain (text : String)
  /-- The text before the first bracket, and what stands in it up to the next closing one. -/
  | tagged (text inner : String)
  /-- A bracket is opened and never closed. -/
  | unclosed (text : String)
deriving DecidableEq, Repr

namespace Vocabulary

/-- Looks for the first pair of brackets in a text. What follows the pair is left out. -/
def bracketed (v : Vocabulary) (text : String) : Bracketed :=
  match cut? v.tagsOpen.toList text.toList with
  | none => .plain text
  | some (before, rest) =>
    match cut? v.tagsClose.toList rest with
    | none => .unclosed text
    | some (inner, _) => .tagged (String.ofList before) (String.ofList inner)

/-- The tags written in a list, without the blanks around them and without empty ones. -/
def tagList (v : Vocabulary) (inner : String) : List String :=
  (((split v.separator.toList inner.toList).map trim).filter (!·.isEmpty)).map String.ofList

/-- The text between the brackets, when the whole text is enclosed in a pair of them. -/
def enclosed? (v : Vocabulary) (text : String) : Option String :=
  ((after? v.tagsOpen.toList text.toList).bind (before? v.tagsClose.toList)).map String.ofList

/-- The text of a stage direction: what its brackets enclose, or all of a line without them. -/
def directionText (v : Vocabulary) (line : String) : String :=
  (v.enclosed? line).getD line

end Vocabulary

/-! ## Labels and class names -/

/-- The text without outer blanks, one full stop at its end, and blanks before that. -/
def withoutFullStop (text : String) : String :=
  let t := trim text.toList
  match before? ['.'] t with
  | some s => String.ofList (trim s)
  | none => String.ofList t

/-- The characters that the name of a renderer class may hold. -/
def isClassChar (c : Char) : Bool :=
  c.isAlphanum || c == '_' || c == '-'

/-- The renderer class of a tag: every character that a class name cannot hold becomes `_`. -/
def tagClass (tag : String) : String :=
  "tag-" ++ String.ofList (tag.toList.map fun c => if isClassChar c then c else '_')

end Dramaturgy
