import Dramaturgy.Proofs.Action
import Dramaturgy.Proofs.Recast

/-!
# A roster as a register of names

Characters ask to be put into a roster one after the other, and some are refused. A name is taken
once, in whatever case it is written: whoever asks for it first has it for ever, and whoever asks later
changes nothing. What can be relied on then is in `Roster.Register`.

So the entries of a roster are all enrolled if no two names are the same in upper case. Otherwise it
is the first entry with a name that has been taken before which is at fault (`names_taken_once`).
-/

namespace Dramaturgy

open Text

section Repeats

variable {α β : Type} {key : α → β}

theorem nodup_map_append_singleton {xs : List α} {x : α} :
    ((xs ++ [x]).map key).Nodup ↔ key x ∉ xs.map key ∧ (xs.map key).Nodup := by
  rw [List.map_append, List.map_singleton, ← List.concat_eq_append, List.nodup_concat]

/-- A list has no two elements with one key, or there is a first element with the key of an earlier
one. -/
theorem nodup_or_exists_first_repeat (key : α → β) (xs : List α) :
    (xs.map key).Nodup ∨ ∃ before x after, xs = before ++ x :: after ∧
      (before.map key).Nodup ∧ key x ∈ before.map key := by
  induction xs using List.reverseRecOn with
  | nil => exact .inl List.nodup_nil
  | append_singleton xs x ih =>
    rcases ih with hdistinct | ⟨before, y, after, rfl, hbefore, hy⟩
    · by_cases hx : key x ∈ xs.map key
      · exact .inr ⟨xs, x, [], rfl, hdistinct, hx⟩
      · exact .inl (nodup_map_append_singleton.mpr ⟨hx, hdistinct⟩)
    · exact .inr ⟨before, y, after ++ [x], by simp, hbefore, hy⟩

end Repeats

namespace Roster

variable {v : Vocabulary} {r : Roster} {c : Character} {name : String}

/-! ## Runs -/

/-- A roster after somebody has asked to be put in. -/
def add (r : Roster) (c : Character) : Roster :=
  match r.insert c with
  | .ok grown => grown
  | .error _ => r

/-- The roster when some characters have asked to be put in, one after the other. -/
def gathered (calls : List Character) : Roster :=
  calls.foldl add {}

/-- Whom a roster takes when somebody asks to be put in. -/
def newcomers (r : Roster) (c : Character) : List Character :=
  match r.insert c with
  | .ok _ => [c]
  | .error _ => []

/-- What can be relied on when some characters have asked to be put into a roster. -/
structure Register (calls : List Character) (r : Roster) : Prop where
  /-- The roster holds those who were taken, as they are and in the order in which they asked. -/
  characters : r.characters = inTurn (fun before c => (gathered before).newcomers c) calls
  /-- No two names are the same in upper case. -/
  distinct : r.keys.Nodup
  /-- A name stands for the first one who asked for it, in whatever case. -/
  first : ∀ name, r.find? name = calls.find? (·.key == uppercase name)
  /-- Whoever has the name of somebody in the roster is refused, and is told so in the new spelling.
  Nothing changes then. -/
  insert : ∀ c,
    ((∃ fault, r.insert c = .error fault) ↔
      ∃ d ∈ r.characters, uppercase d.name = uppercase c.name) ∧
    ∀ fault, r.insert c = .error fault → fault = .duplicateCharacter c.name ∧ r.add c = r
  /-- Under a name there is whoever has it in the roster, and no other. -/
  lookup : ∀ name,
    (∀ c, r.lookup name = .ok c ↔ c ∈ r.characters ∧ uppercase c.name = uppercase name) ∧
    ∀ fault, r.lookup name = .error fault ↔
      (∀ c ∈ r.characters, uppercase c.name ≠ uppercase name) ∧ fault = .unknownCharacter name
  /-- How a name is spelled does not matter. -/
  spelling : ∀ name other c, uppercase name = uppercase other →
    (r.lookup name = .ok c ↔ r.lookup other = .ok c)
  /-- Whoever is found under a name is found there for ever. -/
  kept : ∀ name c later, r.lookup name = .ok c →
    (gathered (calls ++ later)).lookup name = .ok c

/-! ## One call -/

/-- The two answers to somebody who asks to be put in. -/
theorem insert_cases (r : Roster) (c : Character) :
    (c.key ∉ r.keys ∧ r.insert c = .ok { characters := r.characters ++ [c] }) ∨
    c.key ∈ r.keys ∧ r.insert c = .error (.duplicateCharacter c.name) := by
  unfold insert
  cases hf : r.find? c.name with
  | none => exact .inl ⟨find?_eq_none_iff.mp hf, rfl⟩
  | some d =>
    obtain ⟨hd, hkey⟩ := mem_of_find? hf
    exact .inr ⟨List.mem_map.mpr ⟨d, hd, hkey⟩, rfl⟩

theorem add_eq (r : Roster) (c : Character) :
    r.add c = { characters := r.characters ++ r.newcomers c } := by
  rcases r.insert_cases c with ⟨-, h⟩ | ⟨-, h⟩ <;> simp [add, newcomers, h]

/-- Whoever asks for a name is heard only if nobody has it yet. -/
theorem find?_add (r : Roster) (c : Character) (name : String) :
    (r.add c).find? name = (r.find? name).or (if c.key = uppercase name then some c else none) := by
  rcases r.insert_cases c with ⟨-, h⟩ | ⟨hkey, h⟩
  · simp [add, h, find?, List.find?_append, List.find?_singleton]
  · rw [add, h]
    by_cases hname : c.key = uppercase name
    · cases hf : r.find? name with
      | none => exact absurd (hname ▸ hkey) (find?_eq_none_iff.mp hf)
      | some d => rfl
    · rw [if_neg hname, Option.or_none]

theorem nodup_keys_add (h : r.keys.Nodup) (c : Character) : (r.add c).keys.Nodup := by
  rcases r.insert_cases c with ⟨hnew, hok⟩ | ⟨-, herr⟩
  · rw [add, hok]
    exact nodup_map_append_singleton.mpr ⟨hnew, h⟩
  · rwa [add, herr]

/-! ## A run of calls -/

theorem gathered_append_singleton (calls : List Character) (c : Character) :
    gathered (calls ++ [c]) = (gathered calls).add c := by
  simp [gathered]

theorem characters_gathered (calls : List Character) : (gathered calls).characters
    = inTurn (fun before c => (gathered before).newcomers c) calls := by
  induction calls using List.reverseRecOn with
  | nil => rfl
  | append_singleton calls c ih =>
    rw [gathered_append_singleton, add_eq, inTurn_append_singleton, ih]

theorem nodup_keys_gathered (calls : List Character) : (gathered calls).keys.Nodup := by
  induction calls using List.reverseRecOn with
  | nil => exact List.nodup_nil
  | append_singleton calls c ih =>
    rw [gathered_append_singleton]
    exact nodup_keys_add ih c

/-- A name stands for the first one who asks for it. -/
theorem find?_gathered (calls : List Character) (name : String) :
    (gathered calls).find? name = calls.find? (·.key == uppercase name) := by
  induction calls using List.reverseRecOn with
  | nil => rfl
  | append_singleton calls c ih =>
    rw [gathered_append_singleton, find?_add, ih, List.find?_append]
    simp [List.find?_singleton]

/-- All are taken if no two of them have one name. -/
theorem gathered_of_nodup {calls : List Character} (h : (calls.map (·.key)).Nodup) :
    gathered calls = { characters := calls } := by
  induction calls using List.reverseRecOn with
  | nil => rfl
  | append_singleton calls c ih =>
    obtain ⟨hnew, hdistinct⟩ := nodup_map_append_singleton.mp h
    rw [gathered_append_singleton, ih hdistinct]
    rcases insert_cases { characters := calls } c with ⟨-, hok⟩ | ⟨htaken, -⟩
    · rw [add, hok]
    · exact absurd htaken hnew

/-! ## Entries -/

theorem enroll_append (v : Vocabulary) : ∀ (r : Roster) (entries more : List (String × String)),
    (r.enroll v (entries ++ more)).outcome
      = (r.enroll v entries).outcome.bind fun r => (r.enroll v more).outcome
  | r, [], more => rfl
  | r, (name, value) :: entries, more => by
    rw [List.cons_append, enroll, enroll, Report.outcome_andThen, Report.outcome_andThen]
    cases r.insert (.ofEntry v name value) with
    | error fault => rfl
    | ok grown => exact enroll_append v grown entries more

theorem ofEntries_of_nodup {entries : List (String × String)}
    (h : (entries.map (uppercase ·.1)).Nodup) : (ofEntries v entries).outcome
      = .ok { characters := entries.map fun (name, value) => .ofEntry v name value } := by
  rcases enroll_cases v entries {} List.nodup_nil with ⟨-, hok⟩ | ⟨fault, hnot, -⟩
  · exact hok
  · exact absurd h hnot

/-- An entry whose name has been taken by an earlier one is at fault. -/
theorem ofEntries_of_repeat {before after : List (String × String)} {value : String}
    (hbefore : (before.map (uppercase ·.1)).Nodup)
    (hname : uppercase name ∈ before.map (uppercase ·.1)) :
    (ofEntries v (before ++ (name, value) :: after)).outcome
      = .error (.duplicateCharacter name) := by
  have hread : (({} : Roster).enroll v before).outcome = _ := ofEntries_of_nodup hbefore
  rw [ofEntries, enroll_append, hread]
  simp only [Except.bind, enroll, Report.outcome_andThen]
  rcases insert_cases { characters := before.map fun (name, value) => .ofEntry v name value }
    (.ofEntry v name value) with ⟨hnew, -⟩ | ⟨-, herr⟩
  · refine absurd ?_ hnew
    simpa [keys, key_ofEntry] using hname
  · rw [herr, name_ofEntry]

theorem ofEntries_eq_ok_iff {entries : List (String × String)} :
    (ofEntries v entries).outcome = .ok r ↔ (entries.map (uppercase ·.1)).Nodup ∧
      r = { characters := entries.map fun (name, value) => .ofEntry v name value } := by
  rcases nodup_or_exists_first_repeat (uppercase ·.1) entries with
    hdistinct | ⟨before, ⟨name, value⟩, after, rfl, hbefore, hname⟩
  · rw [ofEntries_of_nodup hdistinct, Except.ok.injEq]
    exact ⟨fun h => ⟨hdistinct, h.symm⟩, fun h => h.2.symm⟩
  · rw [ofEntries_of_repeat hbefore hname]
    refine iff_of_false nofun fun ⟨hdistinct, _⟩ => ?_
    rw [List.map_append, List.nodup_append] at hdistinct
    exact hdistinct.2.2 _ hname (uppercase name) (by simp) rfl

/-- The first entry with a name that has been taken is at fault, whatever comes later. -/
theorem ofEntries_eq_error_iff {entries : List (String × String)} {fault : Fault} :
    (ofEntries v entries).outcome = .error fault ↔
      ∃ before name value after, entries = before ++ (name, value) :: after ∧
        (before.map (uppercase ·.1)).Nodup ∧ uppercase name ∈ before.map (uppercase ·.1) ∧
        fault = .duplicateCharacter name := by
  constructor
  · intro h
    rcases nodup_or_exists_first_repeat (uppercase ·.1) entries with
      hdistinct | ⟨before, ⟨name, value⟩, after, rfl, hbefore, hname⟩
    · rw [ofEntries_of_nodup hdistinct] at h
      cases h
    · rw [ofEntries_of_repeat hbefore hname] at h
      cases h
      exact ⟨before, name, value, after, rfl, hbefore, hname, rfl⟩
  · rintro ⟨before, name, value, after, rfl, hbefore, hname, rfl⟩
    exact ofEntries_of_repeat hbefore hname

/-! ## What can be relied on -/

theorem key_mem_keys_iff : c.key ∈ r.keys ↔
    ∃ d ∈ r.characters, uppercase d.name = uppercase c.name :=
  List.mem_map

theorem lookup_eq_error_iff {fault : Fault} : r.lookup name = .error fault ↔
    (∀ c ∈ r.characters, uppercase c.name ≠ uppercase name) ∧ fault = .unknownCharacter name := by
  have hnone : r.find? name = none ↔ ∀ c ∈ r.characters, uppercase c.name ≠ uppercase name := by
    rw [find?_eq_none_iff, keys, List.mem_map]
    exact not_exists.trans (forall_congr' fun c => not_and)
  rw [← hnone, lookup]
  cases r.find? name with
  | none => simp [eq_comm]
  | some c => simp

theorem register_gathered (calls : List Character) : Register calls (gathered calls) where
  characters := characters_gathered calls
  distinct := nodup_keys_gathered calls
  first := find?_gathered calls
  insert c := by
    rw [← key_mem_keys_iff]
    rcases (gathered calls).insert_cases c with ⟨hnew, hok⟩ | ⟨htaken, herr⟩
    · rw [hok]
      exact ⟨iff_of_false nofun hnew, nofun⟩
    · refine ⟨iff_of_true ⟨_, herr⟩ htaken, fun fault hfault => ?_⟩
      rw [add, hfault]
      rw [herr] at hfault
      cases hfault
      exact ⟨rfl, rfl⟩
  lookup name := by
    refine ⟨fun c => ?_, fun fault => lookup_eq_error_iff⟩
    exact lookup_eq_ok_iff.trans (find?_eq_some_iff (nodup_keys_gathered calls))
  spelling name other c h := by
    rw [lookup_eq_ok_iff, lookup_eq_ok_iff, find?_congr _ h]
  kept name c later h := by
    rw [lookup_eq_ok_iff, find?_gathered] at h ⊢
    rw [List.find?_append, h, Option.some_or]

/-- **Names are taken once.** The roster that comes of any calls is a register of the names. The
entries of a roster are enrolled if no two names are the same in upper case; otherwise the first one
whose name has been taken is at fault. -/
theorem names_taken_once (v : Vocabulary) (calls : List Character)
    (entries : List (String × String)) :
    Register calls (gathered calls) ∧
    ((∃ r, (ofEntries v entries).outcome = .ok r) ↔ (entries.map (uppercase ·.1)).Nodup) ∧
    (∀ r, (ofEntries v entries).outcome = .ok r →
      r = gathered (entries.map fun (name, value) => .ofEntry v name value) ∧
        r.characters = entries.map fun (name, value) => .ofEntry v name value) ∧
    ∀ fault, (ofEntries v entries).outcome = .error fault ↔
      ∃ before name value after, entries = before ++ (name, value) :: after ∧
        (before.map (uppercase ·.1)).Nodup ∧ uppercase name ∈ before.map (uppercase ·.1) ∧
        fault = .duplicateCharacter name := by
  refine ⟨register_gathered calls, ?_, fun r hread => ?_, fun _ => ofEntries_eq_error_iff⟩
  · exact ⟨fun ⟨r, hread⟩ => (ofEntries_eq_ok_iff.mp hread).1,
      fun h => ⟨_, ofEntries_eq_ok_iff.mpr ⟨h, rfl⟩⟩⟩
  · obtain ⟨hdistinct, rfl⟩ := ofEntries_eq_ok_iff.mp hread
    have hkeys : ((entries.map fun (name, value) => Character.ofEntry v name value).map
        (·.key)).Nodup := by
      simpa [Function.comp_def, key_ofEntry] using hdistinct
    exact ⟨(gathered_of_nodup hkeys).symm, rfl⟩

/-- In upper case one name may be longer than it is written, and the same as another. -/
example : (ofEntries {} [("Straße", "A street."), ("Ann", "A guest."), ("STRASSE", "")]).outcome
    = .error (.duplicateCharacter "STRASSE") := rfl

end Roster

end Dramaturgy
