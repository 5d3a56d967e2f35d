import Dramaturgy.Cue
import Dramaturgy.Line
import Dramaturgy.Script

/-!
# Performing a script

The plot is read from the act down to the lines of a speech, and written out as cues:

* a remark that is a plain text is a stage direction, at which the current speaker points;
* a speech hands the floor to its character, and each of its lines is a direction or dialogue;
* every edge of a line of dialogue carries all tags of the line's address;
* the word that ends a scene ends the remarks of it, and in the list of scenes the act.

The first fault ends the performance, and then there is no play.
-/

namespace Dramaturgy

/-- A script that has been performed. -/
structure Play where
  title : Option String := none
  author : Option String := none
  synopsis : Option String := none
  roster : Roster := {}
  graph : Graph := {}
deriving DecidableEq, Repr

/-! ## The cues of a script -/

namespace Dialogue

/-- The cues of a line of dialogue: one for each addressee that has a name. -/
def cues (roster : Roster) (speaker : String) (d : Dialogue) : List Cue :=
  d.listeners.map fun a =>
    match roster.lookup a.name with
    | .ok listener => .address speaker listener d.text d.tags
    | .error fault => .fail fault

end Dialogue

namespace Vocabulary

/-- The cues of a line of a speech. -/
def lineCues (v : Vocabulary) (roster : Roster) (speaker line : String) : List Cue :=
  (Line.notes v line).map .tell ++
    match Line.ofText v line with
    | .direction text => [.direction (some speaker) text]
    | .dialogue d => d.cues roster speaker

/-- The cues of some remarks of a scene, before which `speaker` spoke last. -/
def remarkCues (v : Vocabulary) (roster : Roster) (speaker : Option String) :
    List Remark → List Cue
  | [] => []
  | .direction text :: rest =>
    if v.isCurtain text then
      if rest.isEmpty then [] else [.tell (.remarksAfterScene rest.length)]
    else
      (v.directionNotes text).map .tell ++
        .direction speaker (v.directionText text) :: v.remarkCues roster speaker rest
  | .speech record :: rest =>
    match record.only .speech with
    | .error fault => [.fail fault]
    | .ok (name, lines) =>
      match roster.lookup name with
      | .error fault => [.fail fault]
      | .ok c =>
        .floor speaker c :: lines.flatMap (v.lineCues roster c.name) ++
          v.remarkCues roster (some c.name) rest

/-- The cues of one entry of the act, which has to be the scene with the given number. -/
def sceneCues (v : Vocabulary) (roster : Roster) (number : Nat) (entry : SceneEntry) : List Cue :=
  .scene ::
    match entry.remarks (v.sceneLabel number) with
    | .error fault => [.fail fault]
    | .ok remarks => v.remarkCues roster none remarks

/-- Whether an entry ends the act. -/
def endsAct (v : Vocabulary) : SceneEntry → Bool
  | .marker text => v.isCurtain text
  | .scene _ => false

/-- The cues of some entries of the act, the first of which is the scene with the given number. -/
def actCues (v : Vocabulary) (roster : Roster) (number : Nat) : List SceneEntry → List Cue
  | [] => []
  | entry :: rest =>
    if v.endsAct entry then
      if rest.isEmpty then [] else [.tell (.entriesAfterAct rest.length)]
    else
      v.sceneCues roster number entry ++ v.actCues roster (number + 1) rest

end Vocabulary

namespace Script

/-- The cues of a script. -/
def cues (v : Vocabulary) (roster : Roster) (script : Script) : List Cue :=
  .act :: (script.actNotes (v.actLabel 1)).map .tell ++
    match script.act (v.actLabel 1) with
    | .error fault => [.fail fault]
    | .ok entries => v.actCues roster 1 entries

/-- The roster of a script. -/
def roster (v : Vocabulary) (script : Script) : Report Roster :=
  match script.rosterEntries with
  | .error fault => .silent (.error fault)
  | .ok entries => Roster.ofEntries v entries

/-- The graph of a script whose roster is known. -/
def graph (v : Vocabulary) (roster : Roster) (script : Script) : Report Graph :=
  let (outcome, stage) := ({ vocabulary := v } : Stage).takeAll (script.cues v roster)
  { outcome := outcome.map fun _ => stage.graph, notes := stage.notes }

/-- The play of a script with the given characters and graph. -/
def toPlay (script : Script) (roster : Roster) (graph : Graph) : Play :=
  { title := script.title, author := script.author, synopsis := script.synopsis, roster, graph }

/-- Performs a script. -/
def perform (v : Vocabulary) (script : Script) : Report Play :=
  (script.roster v).andThen fun roster =>
    (script.graph v roster).andThen fun graph => .silent (.ok (script.toPlay roster graph))

end Script

end Dramaturgy
