import Dramaturgy.Bracket
import Dramaturgy.Note
import Dramaturgy.Text.Uppercase

/-!
# Characters and the roster

A roster entry is a name and a description, which may end in a list of tags in brackets. The roster
is the list of characters in the order of their entries. Two names are the same when they agree in
upper case, and no two characters of a roster have the same name in that sense.
-/

namespace Dramaturgy

open Text

/-- A character of a script. -/
structure Character where
  name : String
  description : String
  tags : List String := []
deriving DecidableEq, Repr

namespace Character

/-- Reads the value of a roster entry. Brackets that are never closed belong to the description. -/
def ofEntry (v : Vocabulary) (name value : String) : Character :=
  match v.bracketed (trimmed value) with
  | .plain text => { name, description := text }
  | .tagged text inner => { name, description := trimmed text, tags := v.tagList inner }
  | .unclosed text => { name, description := text }

/-- What reading a roster entry has to tell. -/
def entryNotes (v : Vocabulary) (name value : String) : List Note :=
  match v.bracketed (trimmed value) with
  | .unclosed _ => [.unclosedTags name]
  | _ => []

/-- What a name is compared by. -/
def key (c : Character) : String :=
  uppercase c.name

end Character

/-- The characters of a script in the order of their entries. -/
structure Roster where
  characters : List Character := []
deriving DecidableEq, Repr

namespace Roster

/-- The character with the given name, in whatever case it is written. -/
def find? (r : Roster) (name : String) : Option Character :=
  r.characters.find? (·.key == uppercase name)

/-- The character with the given name, or the fault that there is none. -/
def lookup (r : Roster) (name : String) : Except Fault Character :=
  match r.find? name with
  | some c => .ok c
  | none => .error (.unknownCharacter name)

/-- The tags of the character with the given name. -/
def tags (r : Roster) (name : String) : Except Fault (List String) :=
  (r.lookup name).map (·.tags)

/-- Adds a character at the end, unless its name is taken. -/
def insert (r : Roster) (c : Character) : Except Fault Roster :=
  match r.find? c.name with
  | some _ => .error (.duplicateCharacter c.name)
  | none => .ok { characters := r.characters ++ [c] }

/-- Reads entries one after the other. -/
def enroll (v : Vocabulary) (r : Roster) : List (String × String) → Report Roster
  | [] => .silent (.ok r)
  | (name, value) :: rest =>
    ({ outcome := r.insert (.ofEntry v name value)
       notes := Character.entryNotes v name value } : Report Roster).andThen
      fun r => r.enroll v rest

/-- The roster that is written in some entries. -/
def ofEntries (v : Vocabulary) (entries : List (String × String)) : Report Roster :=
  ({} : Roster).enroll v entries

end Roster

end Dramaturgy
