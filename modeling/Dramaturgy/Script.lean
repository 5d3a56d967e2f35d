import Dramaturgy.Entries
import Dramaturgy.Fault
import Dramaturgy.Note

/-!
# Scripts

A script as it is written: some texts about the play, the roster, and a plot of acts, scenes and
remarks. Only its form is fixed here. Which of its records have one key, and which labels its acts
and scenes must have, is asked when the script is performed.

`Record` is a mapping that keeps the order in which it is written. Its keys are pairwise distinct.
-/

namespace Dramaturgy

/-! ## Records -/

/-- A mapping from texts, in the order in which it is written. -/
structure Record (α : Type) where
  entries : List (String × α) := []
  distinct : (entries.map (·.1)).Nodup := by decide
deriving DecidableEq

namespace Record

variable {α : Type}

/-- The record without keys. -/
def empty : Record α where
  distinct := by simp

/-- The number of keys. -/
def size (r : Record α) : Nat :=
  r.entries.length

/-- The value of a key. -/
def get? (r : Record α) (key : String) : Option α :=
  r.entries.lookup key

/-- The record with exactly one key. -/
def single (key : String) (value : α) : Record α where
  entries := [(key, value)]
  distinct := by simp

/-- The key and the value of a record that has exactly one key. -/
def only? (r : Record α) : Option (String × α) :=
  match r.entries with
  | [entry] => some entry
  | _ => none

/-- The key and the value of a record of the given kind, which must have exactly one key. -/
def only (r : Record α) (kind : RecordKind) : Except Fault (String × α) :=
  match r.only? with
  | some entry => .ok entry
  | none => .error (.malformed (.notOneKey kind r.size))

/-- Gives a key a value. A key that is written again keeps its place and takes the later value. -/
def insert (r : Record α) (key : String) (value : α) : Record α where
  entries := putEntry key value r.entries
  distinct := by
    rw [map_fst_putEntry]
    split
    · exact r.distinct
    · next h =>
      rw [List.nodup_append]
      refine ⟨r.distinct, by simp, ?_⟩
      intro a ha b hb
      rw [List.mem_singleton] at hb
      subst hb
      rintro rfl
      exact h ha

/-- The record that some entries write. -/
def ofList (entries : List (String × α)) : Record α :=
  entries.foldl (fun r e => r.insert e.1 e.2) empty

end Record

/-! ## The form of a script -/

/-- An entry of a scene: a stage direction, or a character with the lines of a speech. -/
inductive Remark where
  | direction (text : String)
  | speech (lines : Record (List String))
deriving DecidableEq

/-- An entry of an act: a scene under its label, or a bare marker such as the end of the act. -/
inductive SceneEntry where
  | marker (text : String)
  | scene (remarks : Record (List Remark))
deriving DecidableEq

/-- A script as it is written. -/
structure Script where
  title : Option String := none
  author : Option String := none
  synopsis : Option String := none
  characters : List (Record String) := []
  plot : List (Record (List SceneEntry))
deriving DecidableEq

namespace Script

/-- The names and values of the roster, which stand in records of one key each. -/
def rosterEntries (script : Script) : Except Fault (List (String × String)) :=
  script.characters.mapM (·.only .rosterEntry)

/-- The entries of the act with the given label. Only the first element of the plot counts. -/
def act (script : Script) (label : String) : Except Fault (List SceneEntry) :=
  match script.plot with
  | [] => .error (.malformed .emptyPlot)
  | acts :: _ =>
    match acts.get? label with
    | some entries => .ok entries
    | none => .error (.missingSection label)

/-- What looking for an act has to tell: whether the plot holds more than one act. -/
def actNotes (script : Script) (label : String) : List Note :=
  match script.plot with
  | [] => []
  | acts :: rest => if !rest.isEmpty || acts.size > 1 then [.furtherActs label] else []

end Script

/-- The remarks of an entry that has to be the scene with the given label. -/
def SceneEntry.remarks (entry : SceneEntry) (label : String) : Except Fault (List Remark) :=
  match entry with
  | .marker text => .error (.malformed (.unexpectedMarker label text))
  | .scene remarks =>
    match remarks.get? label with
    | some remarks => .ok remarks
    | none => .error (.missingSection label)

end Dramaturgy
