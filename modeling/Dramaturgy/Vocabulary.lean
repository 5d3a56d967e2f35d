/-!
# The vocabulary of a script

The marks and words that a script is written with. All of them can be exchanged, so every reader of
script text takes a `Vocabulary`; any text may serve as a mark, the empty one included.

    Alice: "A detective. [Detective, User]"       tags
    (To Bob[urgent], Ann)Go now.                  an address
    [Lights dim.]                                 a stage direction
    CURTAIN                                       the end of a scene or of the act
-/

namespace Dramaturgy

/-- The marks and words that a script is written with. -/
structure Vocabulary where
  /-- Opens a list of tags, and encloses a stage direction from the left. -/
  tagsOpen : String := "["
  /-- Closes a list of tags, and encloses a stage direction from the right. -/
  tagsClose : String := "]"
  /-- Stands between two tags or two addressees. -/
  separator : String := ","
  /-- Opens the address in front of a line of dialogue. -/
  addressOpen : String := "(To "
  /-- Closes the address in front of a line of dialogue. -/
  addressClose : String := ")"
  /-- The word that ends a scene or the act. -/
  curtain : String := "CURTAIN"
  /-- What stands before the number in the label of an act. -/
  actHeading : String := "ACT "
  /-- What stands before the number in the label of a scene. -/
  sceneHeading : String := "SCENE "
deriving DecidableEq, Repr

namespace Vocabulary

/-- The label of the act with the given number. -/
def actLabel (v : Vocabulary) (act : Nat) : String :=
  v.actHeading ++ toString act

/-- The label of the scene with the given number. -/
def sceneLabel (v : Vocabulary) (scene : Nat) : String :=
  v.sceneHeading ++ toString scene

/-- Whether an entry of a script is the word that ends it. -/
def isCurtain (v : Vocabulary) (entry : String) : Bool :=
  entry == v.curtain

end Vocabulary

end Dramaturgy
