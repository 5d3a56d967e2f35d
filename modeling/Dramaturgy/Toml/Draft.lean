import Dramaturgy.Entries
import Dramaturgy.Toml.Value

/-!
# Tables that are being written

The tables of a document come about in pieces: a header may name a table below one that was never
defined, and a key with dots puts its value into a table below. `Draft` remembers how each table came
about, because that decides what may still be added to it. Every recursion is on a path of keys or on
what it visits.
-/

namespace Dramaturgy.Toml

/-- How a table came about. -/
inductive Origin where
  /-- It has a header of its own, or braces, or is the whole document. -/
  | defined
  /-- The header of a table below it names it. -/
  | implied
  /-- A key with dots names it. -/
  | dotted
deriving DecidableEq, Repr

/-- What a key stands for in a table that is being written. -/
inductive Item where
  | value (v : Value)
  | table (origin : Origin) (entries : List (String × Item))
  /-- Tables with the same header, the last of which is still being written. -/
  | tables (earlier : List Value) (last : List (String × Item))

/-- A table that is being written. -/
structure Draft where
  origin : Origin := .defined
  entries : List (String × Item) := []

/-! ## The finished value -/

mutual

/-- What an item has become in the end. -/
def Item.finished : Item → Value
  | .value v => v
  | .table _ entries => .table (finishedEntries entries)
  | .tables earlier last => .array (earlier ++ [.table (finishedEntries last)])

/-- What the items of a table have become in the end. -/
def finishedEntries : List (String × Item) → List (String × Value)
  | [] => []
  | (key, item) :: entries => (key, item.finished) :: finishedEntries entries

end

/-- The finished table. -/
def Draft.finished (d : Draft) : Value :=
  .table (finishedEntries d.entries)

/-! ## Entries -/

namespace Draft

/-- The item of a key. -/
def find? (d : Draft) (key : String) : Option Item :=
  d.entries.lookup key

/-- Puts an item under a key. -/
def put (d : Draft) (key : String) (item : Item) : Draft :=
  { d with entries := putEntry key item d.entries }

/-- Changes the table that a path leads to. Tables that are missing on the way are made, as the given
origin says. A key with dots must not lead through a table that is defined. -/
def within? (origin : Origin) (change : Draft → Option Draft) : List String → Draft → Option Draft
  | [], d => change d
  | key :: path, d =>
    match d.find? key with
    | none =>
      (within? origin change path { origin }).map fun e => d.put key (.table e.origin e.entries)
    | some (.table own entries) =>
      if origin = .dotted && own = .defined then none
      else
        (within? origin change path { origin := own, entries }).map fun e =>
          d.put key (.table e.origin e.entries)
    | some (.tables earlier last) =>
      (within? origin change path { entries := last }).map fun e =>
        d.put key (.tables earlier e.entries)
    | some (.value _) => none

/-- Adds a value under a path of keys. A table that is reached by dots must have come about by dots,
and the last key must be new. -/
def insert? (path : List String) (value : Value) (d : Draft) : Option Draft :=
  path.getLast?.bind fun key =>
    let tables := path.dropLast
    d.within? .dotted (fun t =>
      if (t.origin == .dotted) == !tables.isEmpty && (t.find? key).isNone then
        some (t.put key (.value value))
      else none) tables

/-- Defines the table with the given header. -/
def define? (path : List String) (d : Draft) : Option Draft :=
  path.getLast?.bind fun key =>
    d.within? .implied (fun t =>
      match t.find? key with
      | none => some (t.put key (.table .defined []))
      | some (.table .implied entries) => some (t.put key (.table .defined entries))
      | _ => none) path.dropLast

/-- Begins the next one of the tables with the given header. -/
def extend? (path : List String) (d : Draft) : Option Draft :=
  path.getLast?.bind fun key =>
    d.within? .implied (fun t =>
      match t.find? key with
      | none => some (t.put key (.tables [] []))
      | some (.tables earlier last) =>
        some (t.put key (.tables (earlier ++ [.table (finishedEntries last)]) []))
      | _ => none) path.dropLast

end Draft

end Dramaturgy.Toml
