import Dramaturgy.Proofs.Performance
import Mathlib.Data.List.Nodup

/-!
# When a script can be performed

`Script.Performable` says what a script has to meet, in terms of what is written in it:

* the roster has records of one key and no name twice, in whatever case;
* the plot has the act, and each of its entries that is due is the scene with its number;
* in each scene, speeches are records of one key, everybody is in the roster, and nobody who speaks
  or is addressed has the number of one of its directions for a name.

`performable_iff` is the main statement: these scripts, and no others, are performed. The order
in which a name and a direction of that number come in a scene does not matter, although the stage
meets the clash in different places.
-/

namespace Dramaturgy

open Event Text

/-- What a scene has to meet, given the names in the roster. -/
structure Vocabulary.Playable (v : Vocabulary) (names : List String) (remarks : List Remark) :
    Prop where
  /-- A speech is a record of one key. -/
  single : ∀ record, .speech record ∈ v.performed remarks → record.size = 1
  /-- Whoever speaks is in the roster. -/
  speakers : ∀ record, .speech record ∈ v.performed remarks → ∀ entry ∈ record.entries,
    uppercase entry.1 ∈ names.map uppercase
  /-- Whoever is addressed is in the roster, but an addressee without a name is nobody. -/
  listeners : ∀ record, .speech record ∈ v.performed remarks → ∀ entry ∈ record.entries,
    ∀ line ∈ entry.2, ∀ d, Line.ofText v line = .dialogue d → ∀ a ∈ d.addressees, a.name ≠ "" →
      uppercase a.name ∈ names.map uppercase
  /-- The number of a direction is not the name of someone who speaks or is addressed. -/
  unclashed : ∀ name ∈ names, uppercase name ∈ (onstage (v.sceneEvents remarks)).map uppercase →
    ∀ k, 1 ≤ k → k ≤ directionCount (v.sceneEvents remarks) → name ≠ toString k

/-- What a script has to meet. -/
structure Script.Performable (v : Vocabulary) (script : Script) : Prop where
  /-- An entry of the roster is a record of one key. -/
  single : ∀ record ∈ script.characters, record.size = 1
  /-- No two names in the roster are the same in upper case. -/
  distinct : (script.writtenNames.map uppercase).Nodup
  /-- The plot begins with the act, and its entries up to its end are the scenes in their order. -/
  scenes : ∃ acts further entries, script.plot = acts :: further ∧
    acts.get? (v.actLabel 1) = some entries ∧
    ∀ i entry, (v.due entries)[i]? = some entry →
      ∃ scene remarks, entry = SceneEntry.scene scene ∧
        scene.get? (v.sceneLabel (i + 1)) = some remarks ∧ v.Playable script.writtenNames remarks

/-! ## Names in the roster -/

namespace Script

variable {v : Vocabulary} {script : Script} {name : String} {c : Character}

theorem map_name_writtenRoster :
    (script.writtenRoster v).characters.map (·.name) = script.writtenNames := by
  simp [writtenRoster, writtenNames, Roster.name_ofEntry]

theorem keys_writtenRoster :
    (script.writtenRoster v).keys = script.writtenNames.map uppercase := by
  simp [Roster.keys, writtenRoster, writtenNames, Roster.key_ofEntry]

/-- A name stands for someone exactly if it is in the roster in upper case. -/
theorem exists_find?_iff : (∃ c, (script.writtenRoster v).find? name = some c) ↔
    uppercase name ∈ script.writtenNames.map uppercase := by
  rw [← keys_writtenRoster (v := v), ← Option.isSome_iff_exists, Option.isSome_iff_ne_none, ne_eq,
    Roster.find?_eq_none_iff, Classical.not_not]

theorem name_mem_of_find? (h : (script.writtenRoster v).find? name = some c) :
    c.name ∈ script.writtenNames ∧ uppercase c.name = uppercase name := by
  obtain ⟨hmem, hkey⟩ := Roster.mem_of_find? h
  refine ⟨?_, hkey⟩
  rw [← map_name_writtenRoster (v := v)]
  exact List.mem_map_of_mem hmem

end Script

/-! ## Elements read by number -/

/-- Reading numbered elements one by one gives something of a kind exactly if each of them does. -/
theorem exists_mapM_zipIdx_iff {α β : Type} {f : α × Nat → Option β} {P : β → Prop} {xs : List α}
    {start : Nat} : (∃ ys, (xs.zipIdx start).mapM f = some ys ∧ ∀ y ∈ ys, P y) ↔
      ∀ i x, xs[i]? = some x → ∃ y, f (x, start + i) = some y ∧ P y := by
  rw [exists_mapM_iff]
  constructor
  · intro h i x hx
    refine h (x, start + i) (List.mk_mem_zipIdx_iff_le_and_getElem?_sub.mpr ⟨by omega, ?_⟩)
    rwa [Nat.add_sub_cancel_left]
  · rintro h ⟨x, i⟩ hx
    obtain ⟨hle, hget⟩ := List.mk_mem_zipIdx_iff_le_and_getElem?_sub.mp hx
    have hread := h (i - start) x hget
    rwa [Nat.add_sub_cancel' hle] at hread

/-! ## Events as written and as staged -/

/-- Characters take the place of names one by one, and directions stay. -/
theorem counts_of_resolve {r : Roster} : ∀ {written : List (Event String)}
    {events : List (Event Character)}, written.map (Event.resolve r) = events.map some →
    directionCount events = directionCount written ∧
      (onstage written).map r.find? = (onstage events).map some
  | [], events, h => by
    obtain rfl : events = [] := by simpa using h.symm
    exact ⟨rfl, rfl⟩
  | w :: written, [], h => by simp at h
  | w :: written, e :: events, h => by
    rw [List.map_cons, List.map_cons, List.cons.injEq] at h
    obtain ⟨hcount, hstage⟩ := counts_of_resolve h.2
    rw [directionCount_cons, directionCount_cons, onstage_cons, onstage_cons, List.map_append,
      List.map_append, hcount, hstage]
    cases w with
    | direction text =>
      obtain rfl : .direction text = e := by simpa [Event.resolve] using h.1
      exact ⟨rfl, rfl⟩
    | speech name =>
      obtain ⟨c, hc, rfl⟩ := Option.map_eq_some_iff.mp h.1
      exact ⟨rfl, by simp [who?, hc]⟩
    | address name text tags =>
      obtain ⟨c, hc, rfl⟩ := Option.map_eq_some_iff.mp h.1
      exact ⟨rfl, by simp [who?, hc]⟩

/-- Events can be staged if everybody in them is in the roster. -/
theorem exists_mapM_resolve_iff {r : Roster} {written : List (Event String)} :
    (∃ events, written.mapM (Event.resolve r) = some events) ↔
      ∀ name ∈ onstage written, ∃ c, r.find? name = some c := by
  have hone : ∀ w : Event String, (∃ e, w.resolve r = some e) ↔
      ∀ name, w.who? = some name → ∃ c, r.find? name = some c := by
    intro w
    cases w <;> simp [Event.resolve, who?]
  have hall : (∃ events, written.mapM (Event.resolve r) = some events) ↔
      ∀ w ∈ written, ∃ e, w.resolve r = some e := by
    simpa using exists_mapM_iff (f := Event.resolve r) (P := fun _ => True)
  simp only [hall, hone, onstage, List.mem_filterMap]
  constructor
  · rintro h name ⟨w, hw, hname⟩
    exact h w hw name hname
  · intro h w hw name hname
    exact h name ⟨w, hw, hname⟩

namespace Vocabulary

variable {v : Vocabulary} {remarks : List Remark} {name line : String}

theorem mem_onstage_flatMap {α : Type} {xs : List α} {f : α → List (Event String)} :
    name ∈ onstage (xs.flatMap f) ↔ ∃ x ∈ xs, name ∈ onstage (f x) := by
  simp only [onstage, List.filterMap_flatMap, List.mem_flatMap]

theorem mem_onstage_lineEvents : name ∈ onstage (v.lineEvents line) ↔
    ∃ d, Line.ofText v line = .dialogue d ∧ ∃ a ∈ d.addressees, a.name ≠ "" ∧ a.name = name := by
  unfold lineEvents
  cases Line.ofText v line with
  | direction text => simp [who?]
  | dialogue d => simp [onstage, who?, and_assoc]

/-- Those on stage in a scene, as they are written in it. -/
theorem mem_onstage_sceneEvents : name ∈ onstage (v.sceneEvents remarks) ↔
    ∃ record, .speech record ∈ v.performed remarks ∧ ∃ entry ∈ record.entries, name = entry.1 ∨
      ∃ line ∈ entry.2, name ∈ onstage (v.lineEvents line) := by
  have hremark : ∀ remark, name ∈ onstage (v.remarkEvents remark) ↔
      ∃ record, remark = .speech record ∧ ∃ entry ∈ record.entries, name = entry.1 ∨
        ∃ line ∈ entry.2, name ∈ onstage (v.lineEvents line) := by
    intro remark
    cases remark with
    | direction text => simp [remarkEvents, who?]
    | speech record =>
      simp only [remarkEvents, mem_onstage_flatMap, onstage_cons, who?, Option.toList_some,
        List.mem_append, List.mem_singleton, Remark.speech.injEq, exists_eq_left']
  rw [sceneEvents, mem_onstage_flatMap]
  constructor
  · rintro ⟨remark, hmem, hname⟩
    obtain ⟨record, rfl, hrecord⟩ := (hremark remark).mp hname
    exact ⟨record, hmem, hrecord⟩
  · rintro ⟨record, hmem, hrecord⟩
    exact ⟨_, hmem, (hremark _).mpr ⟨record, rfl, hrecord⟩⟩

/-- What holds of those on stage holds of the speakers and of the listeners. -/
theorem forall_onstage_iff {P : String → Prop} :
    (∀ name ∈ onstage (v.sceneEvents remarks), P name) ↔
      (∀ record, .speech record ∈ v.performed remarks → ∀ entry ∈ record.entries, P entry.1) ∧
      ∀ record, .speech record ∈ v.performed remarks → ∀ entry ∈ record.entries,
        ∀ line ∈ entry.2, ∀ d, Line.ofText v line = .dialogue d → ∀ a ∈ d.addressees, a.name ≠ "" →
          P a.name := by
  constructor
  · intro h
    refine ⟨fun record hr entry he => ?_, fun record hr entry he line hl d hd a ha hne => ?_⟩
    · exact h _ (mem_onstage_sceneEvents.mpr ⟨record, hr, entry, he, Or.inl rfl⟩)
    · have hline := mem_onstage_lineEvents.mpr ⟨d, hd, a, ha, hne, rfl⟩
      exact h _ (mem_onstage_sceneEvents.mpr ⟨record, hr, entry, he, Or.inr ⟨line, hl, hline⟩⟩)
  · rintro ⟨hspeakers, hlisteners⟩ name hname
    obtain ⟨record, hr, entry, he, rfl | ⟨line, hl, hline⟩⟩ := mem_onstage_sceneEvents.mp hname
    · exact hspeakers record hr entry he
    · obtain ⟨d, hd, a, ha, hne, rfl⟩ := mem_onstage_lineEvents.mp hline
      exact hlisteners record hr entry he line hl d hd a ha hne

end Vocabulary

/-! ## Scenes -/

namespace Vocabulary

variable {v : Vocabulary} {script : Script} {remarks : List Remark} {name : String}
  {written : List (Event String)} {events : List (Event Character)}

/-- The names on stage are those of the roster that are written, in whatever case. -/
theorem mem_names_iff (hdistinct : (script.writtenNames.map uppercase).Nodup)
    (h : (onstage written).map (script.writtenRoster v).find? = (onstage events).map some) :
    name ∈ names events ↔
      name ∈ script.writtenNames ∧ uppercase name ∈ (onstage written).map uppercase := by
  constructor
  · intro hname
    obtain ⟨c, hc, rfl⟩ := List.mem_map.mp hname
    obtain ⟨w, hw, hfind⟩ := List.mem_map.mp (h ▸ List.mem_map_of_mem (f := some) hc)
    obtain ⟨hmem, hkey⟩ := Script.name_mem_of_find? hfind
    exact ⟨hmem, List.mem_map.mpr ⟨w, hw, hkey.symm⟩⟩
  · rintro ⟨hname, hkey⟩
    obtain ⟨w, hw, hkey⟩ := List.mem_map.mp hkey
    have hfind := h ▸ List.mem_map_of_mem (f := (script.writtenRoster v).find?) hw
    obtain ⟨c, hc, hfind⟩ := List.mem_map.mp hfind
    obtain ⟨hmem, hcw⟩ := Script.name_mem_of_find? hfind.symm
    -- in upper case the roster has no name twice
    have heq : c.name = name := List.inj_on_of_nodup_map hdistinct hmem hname (hcw.trans hkey)
    exact heq ▸ List.mem_map_of_mem hc

theorem all_isSingle_iff : (v.performed remarks).all (·.isSingle) ↔
    ∀ record, .speech record ∈ v.performed remarks → record.size = 1 := by
  rw [List.all_eq_true]
  constructor
  · intro h record hmem
    simpa [Remark.isSingle] using h _ hmem
  · intro h remark hmem
    cases remark with
    | direction text => rfl
    | speech record => simpa [Remark.isSingle] using h record hmem

/-- A clash shows in the names of the roster that are written, in whatever case. -/
theorem unclashed_iff (hdistinct : (script.writtenNames.map uppercase).Nodup)
    (h : written.map (Event.resolve (script.writtenRoster v)) = events.map some) :
    Unclashed events ↔
      ∀ name ∈ script.writtenNames, uppercase name ∈ (onstage written).map uppercase →
        ∀ k, 1 ≤ k → k ≤ directionCount written → name ≠ toString k := by
  obtain ⟨hcount, hstage⟩ := counts_of_resolve h
  unfold Unclashed
  rw [hcount]
  simp only [mem_names_iff hdistinct hstage, and_imp]

/-- A scene has events without a clash exactly if it can be played. -/
theorem exists_stagedScene_iff (hdistinct : (script.writtenNames.map uppercase).Nodup) :
    (∃ events, v.stagedScene (script.writtenRoster v) remarks = some events ∧ Unclashed events) ↔
      v.Playable script.writtenNames remarks := by
  have hfound : (∃ events, (v.sceneEvents remarks).mapM (Event.resolve (script.writtenRoster v))
      = some events) ↔ ∀ name ∈ onstage (v.sceneEvents remarks),
        uppercase name ∈ script.writtenNames.map uppercase := by
    simp only [exists_mapM_resolve_iff, Script.exists_find?_iff]
  constructor
  · rintro ⟨events, hstaged, hu⟩
    obtain ⟨hsingle, hread⟩ := Option.ite_none_right_eq_some.mp hstaged
    obtain ⟨hspeakers, hlisteners⟩ := forall_onstage_iff.mp (hfound.mp ⟨events, hread⟩)
    exact ⟨all_isSingle_iff.mp hsingle, hspeakers, hlisteners,
      (unclashed_iff hdistinct (mapM_eq_some_iff.mp hread)).mp hu⟩
  · intro h
    obtain ⟨events, hread⟩ := hfound.mpr (forall_onstage_iff.mpr ⟨h.speakers, h.listeners⟩)
    refine ⟨events, ?_, (unclashed_iff hdistinct (mapM_eq_some_iff.mp hread)).mpr h.unclashed⟩
    exact Option.ite_none_right_eq_some.mpr ⟨all_isSingle_iff.mpr h.single, hread⟩

theorem stagedEntry_eq_some_iff {r : Roster} {number : Nat} {entry : SceneEntry} :
    v.stagedEntry r number entry = some events ↔
      ∃ (scene : Record (List Remark)) (remarks : List Remark), entry = .scene scene ∧
        scene.get? (v.sceneLabel number) = some remarks ∧
        v.stagedScene r remarks = some events := by
  unfold stagedEntry
  cases entry with
  | marker text => simp [sceneRemarks?]
  | scene scene => simp [sceneRemarks?, Option.bind_eq_some_iff]

end Vocabulary

/-- The events of each scene of a script are read off some remarks. -/
theorem Script.exists_stagedScene {v : Vocabulary} {script : Script}
    {scenes : List (List (Event Character))} {events : List (Event Character)}
    (h : script.staged v = some scenes) (hmem : events ∈ scenes) :
    ∃ remarks, v.stagedScene (script.writtenRoster v) remarks = some events := by
  obtain ⟨entries, -, hread⟩ := Option.bind_eq_some_iff.mp h
  have hsome := List.mem_map_of_mem (f := some) hmem
  rw [← mapM_eq_some_iff.mp hread] at hsome
  obtain ⟨⟨entry, number⟩, -, hentry⟩ := List.mem_map.mp hsome
  obtain ⟨scene, remarks, -, -, hscene⟩ := Vocabulary.stagedEntry_eq_some_iff.mp hentry
  exact ⟨remarks, hscene⟩

/-! ## Scripts -/

namespace Script

variable {v : Vocabulary} {script : Script}

theorem writtenAct?_eq_some_iff {entries : List SceneEntry} :
    script.writtenAct? v = some entries ↔
      ∃ acts further, script.plot = acts :: further ∧ acts.get? (v.actLabel 1) = some entries := by
  unfold writtenAct?
  cases script.plot <;> simp

/-- The events of a script can be had without a clash exactly if its act can be played. -/
theorem exists_staged_iff (hdistinct : (script.writtenNames.map uppercase).Nodup) :
    (∃ scenes, script.staged v = some scenes ∧ ∀ events ∈ scenes, Unclashed events) ↔
      ∃ acts further entries, script.plot = acts :: further ∧
        acts.get? (v.actLabel 1) = some entries ∧
        ∀ i entry, (v.due entries)[i]? = some entry →
          ∃ scene remarks, entry = SceneEntry.scene scene ∧
            scene.get? (v.sceneLabel (i + 1)) = some remarks ∧
            v.Playable script.writtenNames remarks := by
  have hentries : ∀ entries : List SceneEntry,
      (∃ scenes, v.stagedEntries (script.writtenRoster v) 1 entries = some scenes ∧
        ∀ events ∈ scenes, Unclashed events) ↔
      ∀ i entry, (v.due entries)[i]? = some entry →
        ∃ scene remarks, entry = SceneEntry.scene scene ∧
          scene.get? (v.sceneLabel (i + 1)) = some remarks ∧
          v.Playable script.writtenNames remarks := by
    intro entries
    rw [Vocabulary.stagedEntries, exists_mapM_zipIdx_iff]
    refine forall_congr' fun i => forall_congr' fun entry => imp_congr_right fun _ => ?_
    simp only [Vocabulary.stagedEntry_eq_some_iff, ← Vocabulary.exists_stagedScene_iff hdistinct]
    rw [Nat.add_comm 1 i]
    constructor
    · rintro ⟨events, ⟨scene, remarks, rfl, hget, hstaged⟩, hu⟩
      exact ⟨scene, remarks, rfl, hget, events, hstaged, hu⟩
    · rintro ⟨scene, remarks, rfl, hget, events, hstaged, hu⟩
      exact ⟨events, ⟨scene, remarks, rfl, hget, hstaged⟩, hu⟩
  simp only [staged, Option.bind_eq_some_iff, writtenAct?_eq_some_iff]
  constructor
  · rintro ⟨scenes, ⟨entries, ⟨acts, further, hplot, hget⟩, hread⟩, hus⟩
    exact ⟨acts, further, entries, hplot, hget, (hentries entries).mp ⟨scenes, hread, hus⟩⟩
  · rintro ⟨acts, further, entries, hplot, hget, h⟩
    obtain ⟨scenes, hread, hus⟩ := (hentries entries).mpr h
    exact ⟨scenes, ⟨entries, ⟨acts, further, hplot, hget⟩, hread⟩, hus⟩

/-- **Which scripts are performed.** If a script is not, the fault lies in it: performing one never
comes to a second act, and it never links what is not there. -/
theorem performable_iff (v : Vocabulary) (script : Script) :
    ((∃ play, (script.perform v).outcome = .ok play) ↔ script.Performable v) ∧
      (script.perform v).outcome ≠ .error .secondAct ∧
      ∀ endpoint, (script.perform v).outcome ≠ .error (.danglingEdge endpoint) := by
  refine ⟨⟨?_, ?_⟩, fun h => inScript_of_perform h, fun endpoint h => inScript_of_perform h⟩
  · rintro ⟨play, h⟩
    obtain ⟨hroster, scenes, hscenes, hus, -⟩ := perform_eq_ok_iff.mp h
    exact ⟨hroster.single, hroster.distinct,
      (exists_staged_iff hroster.distinct).mp ⟨scenes, hscenes, hus⟩⟩
  · intro h
    obtain ⟨scenes, hscenes, hus⟩ := (exists_staged_iff h.distinct).mpr h.scenes
    exact ⟨_, perform_eq_ok_iff.mpr ⟨⟨h.single, h.distinct⟩, scenes, hscenes, hus, rfl⟩⟩

end Script

end Dramaturgy
