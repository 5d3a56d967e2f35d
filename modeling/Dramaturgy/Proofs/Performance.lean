import Dramaturgy.Proofs.Traversal

/-!
# What performing a script gives

A script is performed if its roster can be read, the events of its scenes can be had
(`Script.staged`), and in no scene a name clashes with the number of a direction. Its graph is then
the outline of those events (`perform_eq_ok_iff`). If it is not performed, the fault lies in the
script (`inScript_of_perform`).
-/

namespace Dramaturgy

open Event Text

/-! ## The roster -/

/-- The records of a roster have one key each, and no two names are the same in upper case. -/
structure Script.HasRoster (script : Script) : Prop where
  single : ∀ record ∈ script.characters, record.size = 1
  distinct : (script.writtenNames.map uppercase).Nodup

namespace Script

variable {script other : Script}

theorem writtenEntries_congr (h : script.characters = other.characters) :
    script.writtenEntries = other.writtenEntries := by
  rw [writtenEntries, writtenEntries, h]

theorem HasRoster.of_characters (h : script.HasRoster)
    (hc : script.characters = other.characters) : other.HasRoster where
  single := hc ▸ h.single
  distinct := by
    rw [writtenNames, ← writtenEntries_congr hc]
    exact h.distinct

end Script

namespace Roster

variable {v : Vocabulary} {r : Roster} {c : Character} {name : String}

/-- The names of a roster as they are compared. -/
def keys (r : Roster) : List String :=
  r.characters.map (·.key)

theorem find?_eq_none_iff : r.find? name = none ↔ uppercase name ∉ r.keys := by
  simp [find?, keys]

theorem mem_of_find? (h : r.find? name = some c) :
    c ∈ r.characters ∧ uppercase c.name = uppercase name :=
  ⟨List.mem_of_find?_eq_some h, by simpa [Character.key] using List.find?_some h⟩

theorem find?_congr {other : String} (r : Roster) (h : uppercase name = uppercase other) :
    r.find? name = r.find? other := by
  rw [find?, find?, h]

theorem key_ofEntry (v : Vocabulary) (name value : String) :
    (Character.ofEntry v name value).key = uppercase name := by
  unfold Character.key Character.ofEntry
  split <;> rfl

theorem name_ofEntry (v : Vocabulary) (name value : String) :
    (Character.ofEntry v name value).name = name := by
  unfold Character.ofEntry
  split <;> rfl

/-- Entries are enrolled if no name is taken. Otherwise one is taken twice. -/
theorem enroll_cases (v : Vocabulary) : ∀ (entries : List (String × String)) (r : Roster),
    r.keys.Nodup →
    ((r.keys ++ entries.map (uppercase ·.1)).Nodup ∧
      (r.enroll v entries).outcome
        = .ok { characters := r.characters ++ entries.map fun (name, value) =>
            .ofEntry v name value }) ∨
    ∃ fault, ¬(r.keys ++ entries.map (uppercase ·.1)).Nodup ∧ fault.InScript ∧
      (r.enroll v entries).outcome = .error fault
  | [], r, h => Or.inl ⟨by simpa using h, by simp [enroll, Report.silent]⟩
  | (name, value) :: rest, r, h => by
    unfold enroll Roster.insert Report.andThen
    cases hf : r.find? (Character.ofEntry v name value).name with
    | some c =>
      -- the name is taken
      refine Or.inr ⟨_, fun hnd => ?_, ?_, rfl⟩
      · have hmem : uppercase name ∈ r.keys := by
          obtain ⟨hc, hkey⟩ := mem_of_find? hf
          rw [name_ofEntry] at hkey
          exact List.mem_map.mpr ⟨c, hc, hkey⟩
        exact (List.nodup_append.mp hnd).2.2 _ hmem _ (by simp) rfl
      · trivial
    | none =>
      rw [find?_eq_none_iff, name_ofEntry] at hf
      have hkeys : ({ characters := r.characters ++ [.ofEntry v name value] } : Roster).keys
          = r.keys ++ [uppercase name] := by
        simp [keys, key_ofEntry]
      have hnd : (r.keys ++ [uppercase name]).Nodup := by
        rw [List.nodup_append]
        refine ⟨h, by simp, fun a ha b hb => ?_⟩
        rw [List.mem_singleton.mp hb]
        rintro rfl
        exact hf ha
      -- the entry is enrolled, and the rest goes on with its name among the keys
      have hrest := enroll_cases v rest
        { characters := r.characters ++ [.ofEntry v name value] } (by rw [hkeys]; exact hnd)
      rw [hkeys, List.append_assoc, List.append_assoc] at hrest
      exact hrest

end Roster

namespace Script

variable {v : Vocabulary} {script : Script} {play : Play}

theorem mapM_only_cases {α : Type} (kind : RecordKind) : ∀ records : List (Record α),
    ((∀ record ∈ records, record.size = 1) ∧
      records.mapM (·.only kind) = .ok (records.flatMap (·.entries))) ∨
    ∃ fault, (¬∀ record ∈ records, record.size = 1) ∧ fault.InScript ∧
      records.mapM (·.only kind) = .error fault
  | [] => Or.inl ⟨by simp, rfl⟩
  | record :: rest => by
    rw [List.mapM_cons]
    cases ho : record.only kind with
    | error fault =>
      obtain ⟨hsize, hf⟩ := Record.only_eq_error ho
      exact Or.inr ⟨fault, fun h => hsize (h record (by simp)), hf, rfl⟩
    | ok entry =>
      have hentries := Record.only_eq_ok ho
      -- the first record that has not one key is at fault
      rcases mapM_only_cases kind rest with ⟨hall, hrest⟩ | ⟨fault, hnot, hf, hrest⟩
      · refine Or.inl ⟨List.forall_mem_cons.mpr ⟨by simp [Record.size, hentries], hall⟩, ?_⟩
        rw [hrest, List.flatMap_cons, hentries]
        rfl
      · refine Or.inr ⟨fault, fun h => hnot (List.forall_mem_cons.mp h).2, hf, ?_⟩
        rw [hrest]
        rfl

/-- A roster is read if it is one. -/
theorem roster_cases (v : Vocabulary) (script : Script) :
    (script.HasRoster ∧ (script.roster v).outcome = .ok (script.writtenRoster v)) ∨
    ∃ fault, ¬script.HasRoster ∧ fault.InScript ∧ (script.roster v).outcome = .error fault := by
  unfold roster rosterEntries
  rcases mapM_only_cases .rosterEntry script.characters with ⟨hall, hok⟩ | ⟨fault, hnot, hf, herr⟩
  · rw [hok]
    have hnames :
        script.writtenEntries.map (uppercase ·.1) = script.writtenNames.map uppercase := by
      simp [writtenNames]
    rcases Roster.enroll_cases v script.writtenEntries {} List.nodup_nil with
      ⟨hnd, hread⟩ | ⟨fault, hnd, hf, hread⟩
    · exact Or.inl ⟨⟨hall, hnames ▸ hnd⟩, hread⟩
    · exact Or.inr ⟨fault, fun h => hnd (hnames ▸ h.distinct), hf, hread⟩
  · rw [herr]
    exact Or.inr ⟨fault, fun h => hnot h.single, hf, rfl⟩

/-! ## The graph -/

theorem act_eq_error {label : String} {fault : Fault} (h : script.act label = .error fault) :
    fault.InScript := by
  unfold act at h
  split at h
  · cases h; trivial
  · split at h <;> cases h
    trivial

theorem outcome_graph {roster : Roster} {outcome : Except Fault Unit} {s : Stage}
    (h : ({ vocabulary := v } : Stage).takeAll (script.cues v roster) = (outcome, s)) :
    (script.graph v roster).outcome = outcome.map fun _ => s.graph := by
  unfold graph
  rw [h]

/-- Once the act is open and its notes are taken, the rest of the cues are those of the act. -/
theorem takeAll_cues (v : Vocabulary) (roster : Roster) {rest : List Cue}
    (h : script.cues v roster = .act :: (script.actNotes (v.actLabel 1)).map .tell ++ rest) :
    ∃ s : Stage, s.Between v [] ∧
      ({ vocabulary := v } : Stage).takeAll (script.cues v roster) = s.takeAll rest := by
  obtain ⟨s₁, hact, hs₁⟩ := Stage.take_act v
  refine ⟨_, hs₁.tell (script.actNotes (v.actLabel 1)), ?_⟩
  rw [h, List.cons_append, Stage.takeAll, hact, ← Stage.takeAll_tells]

/-- With the roster at hand the stage performs a script if its events can be had and no name
clashes. -/
theorem graph_cases (v : Vocabulary) (script : Script) :
    (∃ scenes, script.staged v = some scenes ∧ (∀ events ∈ scenes, Unclashed events) ∧
      (script.graph v (script.writtenRoster v)).outcome = .ok (v.outline scenes)) ∨
    ∃ fault, (∀ scenes, script.staged v = some scenes → ¬∀ events ∈ scenes, Unclashed events) ∧
      fault.InScript ∧ (script.graph v (script.writtenRoster v)).outcome = .error fault := by
  cases ha : script.act (v.actLabel 1) with
  | error fault =>
    obtain ⟨s, -, hcues⟩ := takeAll_cues v (script.writtenRoster v)
      (by unfold cues; rw [ha])
    refine Or.inr ⟨fault, fun scenes h => ?_, act_eq_error ha, ?_⟩
    · simp [staged, writtenAct?_eq, ha, Except.toOption] at h
    · exact outcome_graph hcues
  | ok entries =>
    obtain ⟨s, hs, hcues⟩ := takeAll_cues v (script.writtenRoster v)
      (by unfold cues; rw [ha])
    have hstaged : script.staged v = v.stagedEntries (script.writtenRoster v) 1 entries := by
      rw [staged, writtenAct?_eq, ha]
      rfl
    rcases hs.takeAll_actCues (script.writtenRoster v) entries with
      ⟨scenes, s', hread, hus, htakes, hs'⟩ | ⟨fault, s', hclash, hf, htakes⟩
    · refine Or.inl ⟨scenes, hstaged.trans hread, hus, ?_⟩
      rw [outcome_graph (hcues.trans htakes), hs'.graph]
      rfl
    · refine Or.inr ⟨fault, fun scenes h => hclash scenes (hstaged ▸ h), hf, ?_⟩
      exact outcome_graph (hcues.trans htakes)

/-! ## The play -/

theorem perform_cases (v : Vocabulary) (script : Script) :
    (script.HasRoster ∧ ∃ scenes, script.staged v = some scenes ∧
      (∀ events ∈ scenes, Unclashed events) ∧
      (script.perform v).outcome
        = .ok (script.toPlay (script.writtenRoster v) (v.outline scenes))) ∨
    ∃ fault, ¬(script.HasRoster ∧ ∃ scenes, script.staged v = some scenes ∧
        ∀ events ∈ scenes, Unclashed events) ∧
      fault.InScript ∧ (script.perform v).outcome = .error fault := by
  unfold perform Report.andThen
  rcases roster_cases v script with ⟨hroster, hread⟩ | ⟨fault, hroster, hf, hread⟩
  · rw [hread]
    rcases graph_cases v script with ⟨scenes, hscenes, hus, hgraph⟩ | ⟨fault, hclash, hf, hgraph⟩
    · simp only [hgraph]
      exact Or.inl ⟨hroster, scenes, hscenes, hus, rfl⟩
    · simp only [hgraph]
      exact Or.inr ⟨fault, fun ⟨_, scenes, hscenes, hus⟩ => hclash scenes hscenes hus, hf, rfl⟩
  · rw [hread]
    exact Or.inr ⟨fault, fun h => hroster h.1, hf, rfl⟩

/-- **When a script is performed, and what it gives.** -/
theorem perform_eq_ok_iff : (script.perform v).outcome = .ok play ↔
    script.HasRoster ∧ ∃ scenes, script.staged v = some scenes ∧
      (∀ events ∈ scenes, Unclashed events) ∧
      play = script.toPlay (script.writtenRoster v) (v.outline scenes) := by
  rcases perform_cases v script with ⟨hroster, scenes, hscenes, hus, hok⟩ | ⟨fault, hnot, -, herr⟩
  · rw [hok]
    constructor
    · intro h
      cases h
      exact ⟨hroster, scenes, hscenes, hus, rfl⟩
    · rintro ⟨-, scenes', hscenes', -, rfl⟩
      rw [hscenes] at hscenes'
      cases hscenes'
      rfl
  · rw [herr]
    refine ⟨nofun, fun ⟨hroster, scenes, hscenes, hus, _⟩ => ?_⟩
    exact absurd ⟨hroster, scenes, hscenes, hus⟩ hnot

theorem inScript_of_perform {fault : Fault} (h : (script.perform v).outcome = .error fault) :
    fault.InScript := by
  rcases perform_cases v script with ⟨-, scenes, -, -, hok⟩ | ⟨fault', -, hf, herr⟩
  · rw [hok] at h; cases h
  · rw [herr] at h; cases h; exact hf

end Script

end Dramaturgy
