import Dramaturgy.Proofs.Contents
import Mathlib.Data.List.Perm.Basic

/-!
# The order of the roster

A roster is a list, and it is looked through from the front. As no two of its names are the same in
upper case, it is all the same where in the list somebody stands: in a roster with more characters,
whoever was found is found again (`Roster.Extends`). So the graph of a play only depends on the
roster as a set, and of that on those who come on stage. `perform_roster_as_set` says so of rosters
in another order, and of rosters with somebody more, whatever the name may be.
-/

namespace Dramaturgy

open Event Text

/-! ## Rosters that extend each other -/

namespace Roster

variable {r r' : Roster} {name : String} {c : Character}

/-- Whoever is found in one roster is found in the other. -/
def Extends (r' r : Roster) : Prop :=
  ∀ name c, r.find? name = some c → r'.find? name = some c

/-- If no name is taken twice, it does not matter where somebody stands. -/
theorem find?_eq_some_iff (hdistinct : r.keys.Nodup) :
    r.find? name = some c ↔ c ∈ r.characters ∧ c.key = uppercase name := by
  refine ⟨fun h => mem_of_find? h, fun ⟨hmem, hkey⟩ => ?_⟩
  cases hfind : r.find? name with
  | none => exact absurd (hkey ▸ List.mem_map_of_mem hmem) (find?_eq_none_iff.mp hfind)
  | some d =>
    obtain ⟨hd, hdkey⟩ := mem_of_find? hfind
    rw [List.inj_on_of_nodup_map hdistinct hd hmem (hdkey.trans hkey.symm)]

theorem extends_of_subset (hsub : r.characters ⊆ r'.characters) (hdistinct : r'.keys.Nodup) :
    r'.Extends r := by
  intro name c h
  obtain ⟨hmem, hkey⟩ := mem_of_find? h
  exact (find?_eq_some_iff hdistinct).mpr ⟨hsub hmem, hkey⟩

theorem Extends.resolve (h : r'.Extends r) {e : Event String} {e' : Event Character}
    (he : e.resolve r = some e') : e.resolve r' = some e' := by
  cases e with
  | direction text => exact he
  | speech name =>
    obtain ⟨c, hc, rfl⟩ := Option.map_eq_some_iff.mp he
    exact Option.map_eq_some_iff.mpr ⟨c, h _ _ hc, rfl⟩
  | address name text tags =>
    obtain ⟨c, hc, rfl⟩ := Option.map_eq_some_iff.mp he
    exact Option.map_eq_some_iff.mpr ⟨c, h _ _ hc, rfl⟩

end Roster

namespace Vocabulary

variable {v : Vocabulary} {r r' : Roster}

/-- A scene that can be staged is staged with the same events when there is more of a roster. -/
theorem stagedScene_of_extends (h : r'.Extends r) {remarks : List Remark}
    {events : List (Event Character)} (hscene : v.stagedScene r remarks = some events) :
    v.stagedScene r' remarks = some events := by
  obtain ⟨hsingle, hread⟩ := Option.ite_none_right_eq_some.mp hscene
  exact Option.ite_none_right_eq_some.mpr
    ⟨hsingle, mapM_eq_some_of_imp (fun _ _ => h.resolve) hread⟩

theorem stagedEntries_of_extends (h : r'.Extends r) {number : Nat} {entries : List SceneEntry}
    {scenes : List (List (Event Character))}
    (hentries : v.stagedEntries r number entries = some scenes) :
    v.stagedEntries r' number entries = some scenes := by
  refine mapM_eq_some_of_imp (fun entry events hentry => ?_) hentries
  obtain ⟨remarks, hremarks, hscene⟩ := Option.bind_eq_some_iff.mp hentry
  exact Option.bind_eq_some_iff.mpr ⟨remarks, hremarks, stagedScene_of_extends h hscene⟩

end Vocabulary

/-! ## Scripts with another roster -/

/-- A character is the one that is written in a record of the roster. -/
def Character.Enrolled (v : Vocabulary) (record : Record String) (c : Character) : Prop :=
  ∃ name value, record.entries = [(name, value)] ∧ c = .ofEntry v name value

namespace Script

/-- A script with other records in its roster. -/
def recast (script : Script) (characters : List (Record String)) : Script :=
  { script with characters }

variable {v : Vocabulary} {script : Script} {characters before after : List (Record String)}
  {play : Play} {name value : String}

theorem mem_characters_writtenRoster {c : Character} :
    c ∈ (script.writtenRoster v).characters ↔
      ∃ name value, (name, value) ∈ script.writtenEntries ∧ .ofEntry v name value = c := by
  simp [writtenRoster]

theorem HasRoster.nodup_keys (h : script.HasRoster) : (script.writtenRoster v).keys.Nodup := by
  rw [keys_writtenRoster]
  exact h.distinct

/-- A roster gives one character for each of its records. -/
theorem HasRoster.forall₂_enrolled (h : script.HasRoster) :
    List.Forall₂ (Character.Enrolled v) script.characters (script.writtenRoster v).characters := by
  have hrecords : ∀ records : List (Record String), (∀ record ∈ records, record.size = 1) →
      List.Forall₂ (Character.Enrolled v) records
        ((records.flatMap (·.entries)).map fun entry => .ofEntry v entry.1 entry.2) := by
    intro records hsingle
    induction records with
    | nil => exact .nil
    | cons record records ih =>
      obtain ⟨hrecord, hrest⟩ := List.forall_mem_cons.mp hsingle
      obtain ⟨⟨name, value⟩, hentries⟩ := List.length_eq_one_iff.mp hrecord
      rw [List.flatMap_cons, hentries]
      exact .cons ⟨name, value, hentries, rfl⟩ (ih hrest)
  exact hrecords script.characters h.single

/-- A play is the same but for its roster if the roster has all its characters and maybe more. -/
theorem perform_recast (hroster : (script.recast characters).HasRoster)
    (hsub : script.writtenEntries ⊆ (script.recast characters).writtenEntries)
    (hplay : (script.perform v).outcome = .ok play) :
    ((script.recast characters).perform v).outcome
      = .ok { play with roster := (script.recast characters).writtenRoster v } := by
  obtain ⟨-, scenes, hscenes, hus, rfl⟩ := perform_eq_ok_iff.mp hplay
  have hextends :
      ((script.recast characters).writtenRoster v).Extends (script.writtenRoster v) := by
    refine Roster.extends_of_subset (fun c hc => ?_) hroster.nodup_keys
    obtain ⟨name, value, hmem, rfl⟩ := mem_characters_writtenRoster.mp hc
    exact mem_characters_writtenRoster.mpr ⟨name, value, hsub hmem, rfl⟩
  obtain ⟨entries, hact, hentries⟩ := Option.bind_eq_some_iff.mp hscenes
  have hstaged : (script.recast characters).staged v = some scenes :=
    Option.bind_eq_some_iff.mpr
      ⟨entries, hact, Vocabulary.stagedEntries_of_extends hextends hentries⟩
  exact perform_eq_ok_iff.mpr ⟨hroster, scenes, hstaged, hus, rfl⟩

/-! ## Another order, and somebody more -/

theorem writtenEntries_recast_perm (hperm : characters.Perm script.characters) :
    (script.recast characters).writtenEntries.Perm script.writtenEntries :=
  hperm.flatMap_right _

theorem HasRoster.recast_perm (h : script.HasRoster) (hperm : characters.Perm script.characters) :
    (script.recast characters).HasRoster where
  single record hrecord := h.single record (hperm.mem_iff.mp hrecord)
  distinct := (((writtenEntries_recast_perm hperm).map _).map _).nodup_iff.mpr h.distinct

theorem perform_recast_perm (hperm : characters.Perm script.characters)
    (hplay : (script.perform v).outcome = .ok play) :
    ((script.recast characters).perform v).outcome
      = .ok { play with roster := (script.recast characters).writtenRoster v } :=
  perform_recast ((perform_eq_ok_iff.mp hplay).1.recast_perm hperm)
    (writtenEntries_recast_perm hperm).symm.subset hplay

theorem writtenEntries_recast_insert (name value : String)
    (hsplit : script.characters = before ++ after) :
    (script.recast (before ++ .single name value :: after)).writtenEntries.Perm
      ((name, value) :: script.writtenEntries) := by
  rw [writtenEntries, writtenEntries, hsplit]
  exact List.perm_middle.flatMap_right _

theorem HasRoster.recast_insert (h : script.HasRoster)
    (hsplit : script.characters = before ++ after)
    (hnew : uppercase name ∉ script.writtenNames.map uppercase) :
    (script.recast (before ++ .single name value :: after)).HasRoster where
  single record hrecord := by
    rcases List.mem_cons.mp (List.perm_middle.mem_iff.mp hrecord) with rfl | hrecord
    · rfl
    · exact h.single record (hsplit ▸ hrecord)
  distinct := by
    have hperm := ((writtenEntries_recast_insert name value hsplit).map (·.1)).map uppercase
    exact hperm.nodup_iff.mpr (List.nodup_cons.mpr ⟨hnew, h.distinct⟩)

/-- **A roster is a set.** In another order it gives the same play, if any, with its characters in
that order. Somebody more in it, under a name that is not taken, makes no difference to the rest of
the play. -/
theorem perform_roster_as_set (v : Vocabulary) (script : Script) :
    (∀ characters, characters.Perm script.characters →
      ((∃ play, ((script.recast characters).perform v).outcome = .ok play) ↔
        ∃ play, (script.perform v).outcome = .ok play) ∧
      ∀ play, (script.perform v).outcome = .ok play → ∃ roster : Roster,
        ((script.recast characters).perform v).outcome = .ok { play with roster } ∧
        roster.characters.Perm play.roster.characters ∧
        List.Forall₂ (Character.Enrolled v) script.characters play.roster.characters ∧
        List.Forall₂ (Character.Enrolled v) characters roster.characters) ∧
    ∀ before after name value play, script.characters = before ++ after →
      uppercase name ∉ script.writtenNames.map uppercase →
      (script.perform v).outcome = .ok play → ∃ roster : Roster,
        ((script.recast (before ++ .single name value :: after)).perform v).outcome
          = .ok { play with roster } := by
  refine ⟨fun characters hperm => ⟨⟨?_, ?_⟩, fun play hplay => ?_⟩, ?_⟩
  · rintro ⟨play, hplay⟩
    -- the order of the script is another order, too
    have hback : script.characters.Perm (script.recast characters).characters := hperm.symm
    have horder := perform_recast_perm hback hplay
    exact ⟨_, horder⟩
  · rintro ⟨play, hplay⟩
    exact ⟨_, perform_recast_perm hperm hplay⟩
  · obtain ⟨hroster, scenes, -, -, rfl⟩ := perform_eq_ok_iff.mp hplay
    exact ⟨_, perform_recast_perm hperm hplay, (writtenEntries_recast_perm hperm).map _,
      hroster.forall₂_enrolled, (hroster.recast_perm hperm).forall₂_enrolled⟩
  · intro before after name value play hsplit hnew hplay
    have hroster := (perform_eq_ok_iff.mp hplay).1
    have hsub : script.writtenEntries ⊆
        (script.recast (before ++ .single name value :: after)).writtenEntries := by
      intro entry hentry
      exact (writtenEntries_recast_insert name value hsplit).mem_iff.mpr
        (List.mem_cons_of_mem _ hentry)
    exact ⟨_, perform_recast (hroster.recast_insert hsplit hnew) hsub hplay⟩

theorem perform_roster_as_set_errand : ∃ play, (errand.perform {}).outcome = .ok play ∧
    play.graph = errandGraph ∧
    play.roster.characters.map (·.name) = ["Alice", "Bob", "Rex"] ∧
    (∃ roster : Roster, ((errand.recast errand.characters.reverse).perform {}).outcome
        = .ok { play with roster } ∧
      List.Forall₂ (Character.Enrolled {}) errand.characters.reverse roster.characters) ∧
    ∃ roster : Roster,
      ((errand.recast [.single "Alice" "A detective. [User]", .single "1" "Nobody.",
        .single "Bob" "A clerk.", .single "Rex" "A dog. [Agent, Pet]"]).perform {}).outcome
          = .ok { play with roster } := by
  obtain ⟨hreorder, hinsert⟩ := perform_roster_as_set {} errand
  obtain ⟨-, hroster⟩ := hreorder _ (List.reverse_perm errand.characters)
  obtain ⟨roster, hreversed, -, -, henrolled⟩ := hroster _ perform_errand
  exact ⟨_, perform_errand, rfl, rfl, ⟨roster, hreversed, henrolled⟩,
    hinsert [.single "Alice" "A detective. [User]"]
      [.single "Bob" "A clerk.", .single "Rex" "A dog. [Agent, Pet]"] "1" "Nobody." _ rfl
      (by decide +kernel) perform_errand⟩

end Script

end Dramaturgy
