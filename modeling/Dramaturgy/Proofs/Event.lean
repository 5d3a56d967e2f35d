import Dramaturgy.Performance
import Mathlib.Data.List.Basic
import Mathlib.Data.List.Induction

/-!
# The events of a scene

What a scene tells, as a list in the order of the script: its directions, its speeches, and within a
speech whom the speaker addresses. The list is read off the remarks without a stage. It says nothing
about ids, counters or the graph; those follow from what comes before an event in the list, which is
what `inTurn` is for.

Where a scene and the act end, which addressees count and which tags they get is written out here,
and not taken from the performance. That the performance takes it in the same way is said by
`closesScene_direction`, `endsAct_eq`, `sceneRemarks?_eq`, `lineEvents_of_dialogue` and
`writtenAct?_eq`.

A character is first given by the name that is written. `Event.resolve` puts the character of the
roster in its place, and `Script.staged` does so for a whole script.
-/

namespace Dramaturgy

open Text

/-! ## Elements in turn -/

section InTurn

variable {α β : Type}

/-- What the elements of a list give in turn, each in view of those before it. -/
def inTurn (f : List α → α → List β) (xs : List α) : List β :=
  xs.zipIdx.flatMap fun (x, i) => f (xs.take i) x

theorem inTurn_nil (f : List α → α → List β) : inTurn f [] = [] := rfl

theorem inTurn_append_singleton (f : List α → α → List β) (xs : List α) (x : α) :
    inTurn f (xs ++ [x]) = inTurn f xs ++ f xs x := by
  unfold inTurn
  rw [List.zipIdx_append, List.flatMap_append]
  congr 1
  · refine List.flatMap_congr fun ⟨z, i⟩ hz => ?_
    have hlt : i < xs.length := by simpa using List.snd_lt_of_mem_zipIdx hz
    show f ((xs ++ [x]).take i) z = f (xs.take i) z
    -- what comes before an element stays as it is when the list grows
    rw [List.take_append_of_le_length (Nat.le_of_lt hlt)]
  · simp

/-- Some element of a list meets a condition, in view of those before it. -/
def Sometime (P : List α → α → Prop) (xs : List α) : Prop :=
  ∃ past x rest, xs = past ++ x :: rest ∧ P past x

theorem sometime_congr {P Q : List α → α → Prop} {xs : List α} (h : ∀ past x, P past x ↔ Q past x) :
    Sometime P xs ↔ Sometime Q xs := by
  simp only [Sometime, h]

theorem not_sometime_nil (P : List α → α → Prop) : ¬Sometime P [] := by
  rintro ⟨past, x, rest, h, -⟩
  simp at h

/-- When a list grows, the condition was met before or it is met by the new element. -/
theorem sometime_append_singleton {P : List α → α → Prop} {xs : List α} {x : α} :
    Sometime P (xs ++ [x]) ↔ Sometime P xs ∨ P xs x := by
  constructor
  · rintro ⟨past, z, rest, hxs, hz⟩
    -- the element is the last one, or it is one of those before
    rcases List.eq_nil_or_concat rest with rfl | ⟨rest', w, rfl⟩
    · obtain ⟨rfl, hlast⟩ := List.append_inj' hxs rfl
      cases hlast
      exact Or.inr hz
    · rw [List.concat_eq_append, ← List.cons_append, ← List.append_assoc] at hxs
      exact Or.inl ⟨past, z, rest', (List.append_inj' hxs rfl).1, hz⟩
  · rintro (⟨past, z, rest, rfl, hz⟩ | hx)
    · exact ⟨past, z, rest ++ [x], by simp, hz⟩
    · exact ⟨xs, x, [], rfl, hx⟩

/-- What is given is given by some element, in view of those before it. -/
theorem mem_inTurn {f : List α → α → List β} {xs : List α} {y : β} :
    y ∈ inTurn f xs ↔ ∃ past x rest, xs = past ++ x :: rest ∧ y ∈ f past x := by
  show y ∈ inTurn f xs ↔ Sometime (fun past x => y ∈ f past x) xs
  induction xs using List.reverseRecOn with
  | nil => simp [inTurn_nil, not_sometime_nil]
  | append_singleton xs x ih =>
    rw [inTurn_append_singleton, List.mem_append, ih, sometime_append_singleton]

theorem map_inTurn {γ : Type} (g : β → γ) (f : List α → α → List β) (xs : List α) :
    (inTurn f xs).map g = inTurn (fun past x => (f past x).map g) xs :=
  List.map_flatMap

end InTurn

/-! ## Events -/

/-- Something that happens in a scene. `α` is how a character is given. -/
inductive Event (α : Type) where
  /-- A direction, within a speech or not. -/
  | direction (text : String)
  /-- A character takes the floor. -/
  | speech (speaker : α)
  /-- The one who has the floor addresses someone. -/
  | address (listener : α) (text : String) (tags : List String)
deriving DecidableEq, Repr

namespace Event

variable {α : Type}

/-- Whether an event is a direction. -/
def isDirection : Event α → Bool
  | .direction _ => true
  | _ => false

/-- Who takes the floor by an event. -/
def speaker? : Event α → Option α
  | .speech c => some c
  | _ => none

/-- Who speaks or is addressed in an event. -/
def who? : Event α → Option α
  | .direction _ => none
  | .speech c => some c
  | .address c .. => some c

/-- The number of directions among some events. -/
def directionCount (events : List (Event α)) : Nat :=
  events.countP (·.isDirection)

/-- Those who speak or are addressed in some events, as often as they do. -/
def onstage (events : List (Event α)) : List α :=
  events.filterMap (·.who?)

/-- Who has the floor after some events: the speaker of the latest speech. -/
def floor? (events : List (Event α)) : Option α :=
  (events.filterMap (·.speaker?)).getLast?

@[simp] theorem directionCount_nil : directionCount ([] : List (Event α)) = 0 := rfl

@[simp] theorem directionCount_cons (e : Event α) (xs : List (Event α)) :
    directionCount (e :: xs) = directionCount xs + if e.isDirection then 1 else 0 :=
  List.countP_cons

@[simp] theorem directionCount_append (xs ys : List (Event α)) :
    directionCount (xs ++ ys) = directionCount xs + directionCount ys := List.countP_append

@[simp] theorem onstage_nil : onstage ([] : List (Event α)) = [] := rfl

@[simp] theorem onstage_cons (e : Event α) (xs : List (Event α)) :
    onstage (e :: xs) = e.who?.toList ++ onstage xs := by
  cases e <;> rfl

@[simp] theorem onstage_append (xs ys : List (Event α)) :
    onstage (xs ++ ys) = onstage xs ++ onstage ys := List.filterMap_append

@[simp] theorem floor?_nil : floor? ([] : List (Event α)) = none := rfl

/-- A speech takes the floor, and everything else leaves it as it is. -/
@[simp] theorem floor?_append_singleton (xs : List (Event α)) (e : Event α) :
    floor? (xs ++ [e]) = e.speaker?.or (floor? xs) := by
  cases e <;> simp [floor?, speaker?]

/-- Whoever has the floor is on stage. -/
theorem mem_onstage_of_floor? {events : List (Event α)} {c : α} (h : floor? events = some c) :
    c ∈ onstage events := by
  obtain ⟨e, he, hc⟩ := List.mem_filterMap.mp (List.mem_of_getLast? h)
  refine List.mem_filterMap.mpr ⟨e, he, ?_⟩
  cases e with
  | speech d => exact hc
  | direction text => cases hc
  | address d text tags => cases hc

end Event

/-! ## Reading a scene -/

namespace Vocabulary

/-- Whether a remark is the word that ends the scene. -/
def closesScene (v : Vocabulary) : Remark → Bool
  | .direction text => text == v.curtain
  | .speech _ => false

/-- The remarks of a scene that are performed: those before the word that ends it. -/
def performed (v : Vocabulary) (remarks : List Remark) : List Remark :=
  remarks.takeWhile (!v.closesScene ·)

/-- Whether an entry is the word that ends the act. -/
def closesAct (v : Vocabulary) : SceneEntry → Bool
  | .marker text => text == v.curtain
  | .scene _ => false

/-- The entries of an act that are due: those before the word that ends it. -/
def due (v : Vocabulary) (entries : List SceneEntry) : List SceneEntry :=
  entries.takeWhile (!v.closesAct ·)

/-- The remarks of the scene with the given number, if an entry of the act is that scene. -/
def sceneRemarks? (v : Vocabulary) (number : Nat) : SceneEntry → Option (List Remark)
  | .marker _ => none
  | .scene scene => scene.get? (v.sceneLabel number)

/-- The events of a line: a direction, or one address for each addressee that has a name. Every
address has all tags that are written in the line. -/
def lineEvents (v : Vocabulary) (line : String) : List (Event String) :=
  match Line.ofText v line with
  | .direction text => [.direction text]
  | .dialogue d =>
    (d.addressees.filter (·.name ≠ "")).map fun a =>
      .address a.name d.text (d.addressees.filterMap (·.tag))

/-- The events of a remark. -/
def remarkEvents (v : Vocabulary) : Remark → List (Event String)
  | .direction text => [.direction (v.directionText text)]
  | .speech record => record.entries.flatMap fun (name, lines) =>
    .speech name :: lines.flatMap v.lineEvents

/-- The events of a scene, with characters by the names that are written. -/
def sceneEvents (v : Vocabulary) (remarks : List Remark) : List (Event String) :=
  (v.performed remarks).flatMap v.remarkEvents

/-! ### Element by element -/

section Ends

variable {v : Vocabulary} {remark : Remark} {remarks : List Remark} {entry : SceneEntry}
  {entries : List SceneEntry}

theorem performed_of_closes (h : v.closesScene remark = true) :
    v.performed (remark :: remarks) = [] :=
  List.takeWhile_cons_of_neg (by simp [h])

theorem performed_cons (h : v.closesScene remark = false) :
    v.performed (remark :: remarks) = remark :: v.performed remarks :=
  List.takeWhile_cons_of_pos (by simp [h])

theorem due_of_closes (h : v.closesAct entry = true) : v.due (entry :: entries) = [] :=
  List.takeWhile_cons_of_neg (by simp [h])

theorem due_cons (h : v.closesAct entry = false) :
    v.due (entry :: entries) = entry :: v.due entries :=
  List.takeWhile_cons_of_pos (by simp [h])

end Ends

/-! ### As a performance reads it -/

theorem closesScene_direction (v : Vocabulary) (text : String) :
    v.closesScene (.direction text) = v.isCurtain text := rfl

theorem endsAct_eq (v : Vocabulary) (entry : SceneEntry) : v.endsAct entry = v.closesAct entry := by
  cases entry <;> rfl

theorem sceneRemarks?_eq (v : Vocabulary) (number : Nat) (entry : SceneEntry) :
    v.sceneRemarks? number entry = (entry.remarks (v.sceneLabel number)).toOption := by
  cases entry with
  | marker text => rfl
  | scene scene =>
    rw [sceneRemarks?, SceneEntry.remarks]
    cases scene.get? (v.sceneLabel number) <;> rfl

theorem lineEvents_of_dialogue {v : Vocabulary} {line : String} {d : Dialogue}
    (h : Line.ofText v line = .dialogue d) :
    v.lineEvents line = d.listeners.map fun a => .address a.name d.text d.tags := by
  have hnamed : ∀ a : Addressee, decide (a.name ≠ "") = !a.isEmpty := by
    intro a
    rw [Bool.eq_iff_iff]
    simp [Addressee.isEmpty]
  simp only [lineEvents, h, Dialogue.listeners, Dialogue.tags, hnamed]

section Cues

variable {v : Vocabulary} {roster : Roster} {remark : Remark} {entry : SceneEntry}

theorem remarkCues_of_closes (h : v.closesScene remark = true) (speaker : Option String)
    (rest : List Remark) : v.remarkCues roster speaker (remark :: rest)
      = if rest.isEmpty then [] else [.tell (.remarksAfterScene rest.length)] := by
  cases remark with
  | direction text => rw [remarkCues, if_pos (by rwa [← closesScene_direction])]
  | speech record => cases h

theorem remarkCues_direction {text : String} (h : v.closesScene (.direction text) = false)
    (speaker : Option String) (rest : List Remark) :
    v.remarkCues roster speaker (.direction text :: rest)
      = (v.directionNotes text).map .tell ++
        .direction speaker (v.directionText text) :: v.remarkCues roster speaker rest := by
  rw [remarkCues, if_neg (by rw [← closesScene_direction, h]; exact Bool.false_ne_true)]

/-- A speech fails, whatever comes after it, or its speaker takes the floor and says the lines. -/
theorem remarkCues_speech_cases (v : Vocabulary) (roster : Roster)
    (record : Record (List String)) :
    (∃ fault, ∀ speaker rest, v.remarkCues roster speaker (.speech record :: rest)
      = [.fail fault]) ∨
    ∃ name lines c, record.only .speech = .ok (name, lines) ∧ roster.lookup name = .ok c ∧
      ∀ speaker rest, v.remarkCues roster speaker (.speech record :: rest)
        = .floor speaker c :: lines.flatMap (v.lineCues roster c.name) ++
          v.remarkCues roster (some c.name) rest := by
  cases ho : record.only .speech with
  | error fault => exact Or.inl ⟨fault, fun speaker rest => by rw [remarkCues, ho]⟩
  | ok entry =>
    cases hl : roster.lookup entry.1 with
    | error fault =>
      exact Or.inl ⟨fault, fun speaker rest => by simp only [remarkCues, ho, hl]⟩
    | ok c =>
      exact Or.inr ⟨_, _, c, rfl, hl, fun speaker rest => by simp only [remarkCues, ho, hl]⟩

theorem actCues_of_closes (h : v.closesAct entry = true) (number : Nat)
    (rest : List SceneEntry) : v.actCues roster number (entry :: rest)
      = if rest.isEmpty then [] else [.tell (.entriesAfterAct rest.length)] := by
  rw [actCues, endsAct_eq, if_pos h]

theorem actCues_cons (h : v.closesAct entry = false) (number : Nat) (rest : List SceneEntry) :
    v.actCues roster number (entry :: rest)
      = v.sceneCues roster number entry ++ v.actCues roster (number + 1) rest := by
  rw [actCues, endsAct_eq, if_neg (by rw [h]; exact Bool.false_ne_true)]

end Cues

end Vocabulary

/-- Whether the record of a remark, if it has one, has exactly one key. -/
def Remark.isSingle : Remark → Bool
  | .direction _ => true
  | .speech record => record.size == 1

/-! ## The characters of the roster -/

/-- The event with the character of the roster whose name is written, in whatever case. -/
def Event.resolve (r : Roster) : Event String → Option (Event Character)
  | .direction text => some (.direction text)
  | .speech name => (r.find? name).map .speech
  | .address name text tags => (r.find? name).map (.address · text tags)

/-- The events of a scene with the characters of a roster. There are none to be had if a speech is
not a record of one key or a name is not in the roster. -/
def Vocabulary.stagedScene (v : Vocabulary) (r : Roster) (remarks : List Remark) :
    Option (List (Event Character)) :=
  if (v.performed remarks).all (·.isSingle) then (v.sceneEvents remarks).mapM (Event.resolve r)
  else none

/-- The same for the scene with the given number, which an entry of the act has to be. -/
def Vocabulary.stagedEntry (v : Vocabulary) (r : Roster) (number : Nat) (entry : SceneEntry) :
    Option (List (Event Character)) :=
  (v.sceneRemarks? number entry).bind (v.stagedScene r)

/-- The same for entries of the act up to the one that ends it, the first being the scene with the
given number. -/
def Vocabulary.stagedEntries (v : Vocabulary) (r : Roster) (number : Nat)
    (entries : List SceneEntry) : Option (List (List (Event Character))) :=
  ((v.due entries).zipIdx number).mapM fun (entry, i) => v.stagedEntry r i entry

namespace Script

/-- The entries of the roster, if each of its records has one key. -/
def writtenEntries (script : Script) : List (String × String) :=
  script.characters.flatMap (·.entries)

/-- The names in the roster. -/
def writtenNames (script : Script) : List String :=
  script.writtenEntries.map (·.1)

/-- The roster as it is written, whether or not a name is taken twice. -/
def writtenRoster (v : Vocabulary) (script : Script) : Roster where
  characters := script.writtenEntries.map fun (name, value) => .ofEntry v name value

/-- The entries of the act, which has to be in the first element of the plot. -/
def writtenAct? (v : Vocabulary) (script : Script) : Option (List SceneEntry) :=
  script.plot.head?.bind (·.get? (v.actLabel 1))

/-- The events of the scenes of a script that are performed. -/
def staged (v : Vocabulary) (script : Script) : Option (List (List (Event Character))) :=
  (script.writtenAct? v).bind (v.stagedEntries (script.writtenRoster v) 1)

theorem writtenAct?_eq (v : Vocabulary) (script : Script) :
    script.writtenAct? v = (script.act (v.actLabel 1)).toOption := by
  rw [writtenAct?, act]
  cases script.plot with
  | nil => rfl
  | cons acts further =>
    rw [List.head?_cons, Option.bind_some]
    cases hget : acts.get? (v.actLabel 1) <;> simp [hget, Except.toOption]

theorem act_eq_ok_iff {v : Vocabulary} {script : Script} {entries : List SceneEntry} :
    script.act (v.actLabel 1) = .ok entries ↔ script.writtenAct? v = some entries := by
  rw [writtenAct?_eq]
  cases script.act (v.actLabel 1) <;> simp [Except.toOption]

end Script

end Dramaturgy
