import Dramaturgy.Character
import Dramaturgy.Stage

/-!
# Cues

A cue tells the stage what to do next. A performance is a list of cues that the stage takes one
after the other, and it ends at the first one that cannot be taken. What a cue says does not depend
on the stage, so that the cues of a script can be written down before any of them is taken.
-/

namespace Dramaturgy

/-- An instruction to the stage. -/
inductive Cue where
  /-- Take a note. -/
  | tell (note : Note)
  /-- Open the act. -/
  | act
  /-- Open the next scene. -/
  | scene
  /-- Perform a direction. The speaker, if there is one, points at it. -/
  | direction (speaker : Option String) (text : String)
  /-- Hand the floor to a character. One who comes on stage by that is pointed at by the previous
  speaker. -/
  | floor (previous : Option String) (speaker : Character)
  /-- Bring a listener on stage, and let the speaker address them. -/
  | address (speaker : String) (listener : Character) (text : String) (tags : List String)
  /-- End the performance with a fault. -/
  | fail (fault : Fault)
deriving DecidableEq, Repr

namespace Stage

/-- Performs a direction, at which the speaker points. -/
def direct (s : Stage) (speaker : Option String) (text : String) : Except Fault Unit × Stage :=
  match s.addDirection text, speaker with
  | (.error fault, s), _ => (.error fault, s)
  | (.ok _, s), none => (.ok (), s)
  | (.ok index, s), some name => s.address name (.direction index) "" []

/-- Hands the floor to a character. -/
def giveFloor (s : Stage) (previous : Option String) (speaker : Character) :
    Except Fault Unit × Stage :=
  match s.enter speaker.name speaker.tags, previous with
  | (.error fault, s), _ => (.error fault, s)
  | (.ok true, s), some name =>
    if name = speaker.name then (.ok (), s) else s.address name (.character speaker.name) "" []
  | (.ok _, s), _ => (.ok (), s)

/-- Brings a listener on stage, and lets the speaker address them. -/
def exchange (s : Stage) (speaker : String) (listener : Character) (text : String)
    (tags : List String) : Except Fault Unit × Stage :=
  match s.enter listener.name listener.tags with
  | (.error fault, s) => (.error fault, s)
  | (.ok _, s) => s.address speaker (.character listener.name) text tags

/-- Takes a cue. -/
def take (s : Stage) : Cue → Except Fault Unit × Stage
  | .tell note => (.ok (), s.tell [note])
  | .act => s.openAct
  | .scene =>
    match s.openScene with
    | (.error fault, s) => (.error fault, s)
    | (.ok _, s) => (.ok (), s.tell [.scene s.sceneLabel])
  | .direction speaker text => s.direct speaker text
  | .floor previous speaker => s.giveFloor previous speaker
  | .address speaker listener text tags => s.exchange speaker listener text tags
  | .fail fault => (.error fault, s)

/-- Takes cues one after the other, up to the first that cannot be taken. -/
def takeAll (s : Stage) : List Cue → Except Fault Unit × Stage
  | [] => (.ok (), s)
  | cue :: cues =>
    match s.take cue with
    | (.error fault, s) => (.error fault, s)
    | (.ok _, s) => s.takeAll cues

/-- Taking more cues is taking them on the stage that the first ones leave. -/
theorem takeAll_append (s : Stage) (first rest : List Cue) :
    s.takeAll (first ++ rest)
      = match s.takeAll first with
        | (.error fault, s) => (.error fault, s)
        | (.ok _, s) => s.takeAll rest := by
  induction first generalizing s with
  | nil => rfl
  | cons cue cues ih =>
    rw [List.cons_append, takeAll, takeAll]
    split
    · rfl
    · exact ih _

end Stage

end Dramaturgy
