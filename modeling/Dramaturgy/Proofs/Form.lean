import Dramaturgy.Proofs.Document
import Dramaturgy.Proofs.Traversal
import Mathlib.Data.List.Nodup

/-!
# The form of a document

Which JSON objects hold a script, and which one. Below the fields of a document there is one way to
write each part of a script: `Json.ofRemark`, `Json.ofSceneEntry`, `Json.ofRoster`, `Json.ofPlot`. The
fields themselves may come in any order and among others; a text about the play that there is not may
be null or missing, and so may an empty roster be missing (`Script.WrittenIn`).

A part is read exactly as it is written: `Json.Exact` says so in both directions, and is passed on from
the values of a record to the record, and from the items of a list to the list. So a document is
refused as soon as a value of another kind stands anywhere in it, in a part that is never performed as
well (`Script.ofJson?_written`).
-/

namespace Dramaturgy

/-! ## How the parts of a script are written -/

namespace Json

/-- No object in a value, however deep, has two fields of one name. -/
inductive Proper : Json → Prop where
  | null : Proper .null
  | bool (value : Bool) : Proper (.bool value)
  | number (literal : String) : Proper (.number literal)
  | string (value : String) : Proper (.string value)
  | array {items : List Json} : (∀ item ∈ items, Proper item) → Proper (.array items)
  | object {fields : List (String × Json)} : (fields.map (·.1)).Nodup →
    (∀ field ∈ fields, Proper field.2) → Proper (.object fields)

/-- A list. -/
def ofList {α : Type} (item : α → Json) (as : List α) : Json :=
  .array (as.map item)

/-- A record, with its keys in their order. -/
def ofRecord {α : Type} (value : α → Json) (r : Record α) : Json :=
  .object (r.entries.map fun entry => (entry.1, value entry.2))

/-- A remark: a text, or a record of lists of lines. -/
def ofRemark : Remark → Json
  | .direction text => .string text
  | .speech lines => ofRecord (ofList .string) lines

/-- An entry of an act: a text, or a record of lists of remarks. -/
def ofSceneEntry : SceneEntry → Json
  | .marker text => .string text
  | .scene remarks => ofRecord (ofList ofRemark) remarks

/-- A roster: a list of records of texts. -/
def ofRoster : List (Record String) → Json :=
  ofList (ofRecord .string)

/-- A plot: a list of records of lists of entries. -/
def ofPlot : List (Record (List SceneEntry)) → Json :=
  ofList (ofRecord (ofList ofSceneEntry))

/-- A text about the play is written in a field. If there is none, the field is null or missing. -/
def TextIn (fields : List (String × Json)) (name : String) : Option String → Prop
  | some text => (name, .string text) ∈ fields
  | none => (name, .null) ∈ fields ∨ name ∉ fields.map (·.1)

end Json

namespace Script

/-- A script is written in the fields of a document. -/
structure WrittenIn (script : Script) (fields : List (String × Json)) : Prop where
  distinct : (fields.map (·.1)).Nodup
  title : Json.TextIn fields "TITLE" script.title
  author : Json.TextIn fields "BY" script.author
  synopsis : Json.TextIn fields "SYNOPSIS" script.synopsis
  characters : ("CHARACTERS", Json.ofRoster script.characters) ∈ fields ∨
    "CHARACTERS" ∉ fields.map (·.1) ∧ script.characters = []
  plot : ("PLOT", Json.ofPlot script.plot) ∈ fields

/-- The names of the fields that count. -/
def fieldNames : List String :=
  ["TITLE", "BY", "SYNOPSIS", "CHARACTERS", "PLOT"]

/-- All fields of a script. -/
def fields (script : Script) : List (String × Json) :=
  [("TITLE", .ofOption script.title), ("BY", .ofOption script.author),
    ("SYNOPSIS", .ofOption script.synopsis), ("CHARACTERS", .ofRoster script.characters),
    ("PLOT", .ofPlot script.plot)]

end Script

/-! ## Records -/

theorem putEntry_of_notMem {α : Type} {key : String} {value : α} : ∀ {es : List (String × α)},
    key ∉ es.map (·.1) → putEntry key value es = es ++ [(key, value)]
  | [], _ => rfl
  | e :: es, h => by
    rw [List.map_cons, List.mem_cons, not_or] at h
    rw [putEntry, if_neg (Ne.symm h.1), putEntry_of_notMem h.2, List.cons_append]

namespace Record

variable {α : Type}

theorem eq_of_entries {r r' : Record α} (h : r.entries = r'.entries) : r = r' := by
  cases r
  cases r'
  cases h
  rfl

theorem entries_foldl_insert : ∀ {entries : List (String × α)} {r : Record α},
    ((r.entries ++ entries).map (·.1)).Nodup →
    (entries.foldl (fun r e => r.insert e.1 e.2) r).entries = r.entries ++ entries
  | [], r, _ => by simp
  | e :: entries, r, h => by
    have hnew : e.1 ∉ r.entries.map (·.1) := by
      rw [List.map_append, List.nodup_append] at h
      exact fun hmem => h.2.2 _ hmem e.1 (by simp) rfl
    have hinsert : (r.insert e.1 e.2).entries = r.entries ++ [e] := putEntry_of_notMem hnew
    rw [List.foldl_cons, entries_foldl_insert (by simpa [hinsert] using h), hinsert,
      List.append_assoc, List.singleton_append]

/-- Entries whose keys are pairwise distinct stay as they are. -/
theorem entries_ofList {entries : List (String × α)} (h : (entries.map (·.1)).Nodup) :
    (ofList entries).entries = entries :=
  entries_foldl_insert (r := empty) h

theorem ofList_entries (r : Record α) : ofList r.entries = r :=
  eq_of_entries (entries_ofList r.distinct)

end Record

/-! ## Reading what is written, and nothing else -/

/-- Elements that can only be read from what they give are the ones that are given. -/
theorem eq_map_of_mapM {α β : Type} {f : α → Option β} {g : β → α} : ∀ {xs : List α} {ys : List β},
    (∀ x ∈ xs, ∀ y, f x = some y → x = g y) → xs.mapM f = some ys → xs = ys.map g
  | [], ys, _, h => by
    cases h
    rfl
  | x :: xs, ys, hfg, h => by
    rw [mapM_cons_eq] at h
    obtain ⟨y, hy, h⟩ := Option.bind_eq_some_iff.mp h
    obtain ⟨ys, hys, rfl⟩ := Option.map_eq_some_iff.mp h
    rw [List.forall_mem_cons] at hfg
    rw [List.map_cons, ← hfg.1 y hy, ← eq_map_of_mapM hfg.2 hys]

namespace Json

variable {α : Type} {read? : Json → Option α} {write : α → Json} {items : List Json}
  {fields : List (String × Json)} {name : String} {value : Json}

theorem proper_array_iff : (array items).Proper ↔ ∀ item ∈ items, item.Proper :=
  ⟨fun | .array hitems => hitems, .array⟩

theorem proper_object_iff : (object fields).Proper ↔
    (fields.map (·.1)).Nodup ∧ ∀ field ∈ fields, field.2.Proper :=
  ⟨fun | .object hdistinct hfields => ⟨hdistinct, hfields⟩, fun h => .object h.1 h.2⟩

/-- Something is read from what writes it, and from nothing else. -/
structure Exact (read? : Json → Option α) (write : α → Json) : Prop where
  read_write : ∀ a, read? (write a) = some a
  eq_write : ∀ json a, json.Proper → read? json = some a → json = write a

theorem exact_string : Exact string? .string where
  read_write _ := rfl
  eq_write json s _ h := by
    cases json <;> cases h
    rfl

theorem Exact.list (h : Exact read? write) : Exact (list? read?) (ofList write) where
  read_write := list?_map h.read_write
  eq_write json as hproper hread := by
    cases json with
    | array items =>
      rw [proper_array_iff] at hproper
      have hitems : items = as.map write :=
        eq_map_of_mapM (fun item hitem a => h.eq_write item a (hproper item hitem)) hread
      rw [hitems, ofList]
    | null | bool _ | number _ | string _ | object _ => cases hread

theorem Exact.record (h : Exact read? write) : Exact (record? read?) (ofRecord write) where
  read_write r := by
    have hentries : (r.entries.map fun entry => (entry.1, write entry.2)).mapM
        (fun field => (read? field.2).map fun value => (field.1, value)) = some r.entries := by
      rw [mapM_eq_some_iff, List.map_map]
      exact List.map_congr_left fun entry _ => by simp [h.read_write]
    rw [ofRecord, record?, hentries, Option.map_some, Record.ofList_entries]
  eq_write json r hproper hread := by
    cases json with
    | object fields =>
      obtain ⟨hdistinct, hvalues⟩ := proper_object_iff.mp hproper
      obtain ⟨entries, hentries, rfl⟩ := Option.map_eq_some_iff.mp hread
      have hfields : fields = entries.map fun entry => (entry.1, write entry.2) := by
        refine eq_map_of_mapM (fun field hfield entry hentry => ?_) hentries
        obtain ⟨a, ha, rfl⟩ := Option.map_eq_some_iff.mp hentry
        rw [← h.eq_write field.2 a (hvalues field hfield) ha]
      -- the keys are those of the object, so that none of them is written again
      have hkeys : entries.map (·.1) = fields.map (·.1) := by
        rw [hfields, List.map_map]
        rfl
      rw [ofRecord, Record.entries_ofList (hkeys ▸ hdistinct), hfields]
    | null | bool _ | number _ | string _ | array _ => cases hread

/-- A text is read as such, and any other value as a record. -/
theorem Exact.text_or_record {β : Type} (h : Exact read? write) {either? : Json → Option β}
    {ofEither : β → Json} (text : String → β) (record : Record α → β)
    (hcases : ∀ b, (∃ s, b = text s) ∨ ∃ r, b = record r)
    (hread_text : ∀ s, either? (.string s) = some (text s))
    (hread_record : ∀ json, (∀ s, json ≠ .string s) →
      either? json = (json.record? read?).map record)
    (hwrite_text : ∀ s, ofEither (text s) = .string s)
    (hwrite_record : ∀ r, ofEither (record r) = ofRecord write r) : Exact either? ofEither where
  read_write b := by
    rcases hcases b with ⟨s, rfl⟩ | ⟨r, rfl⟩
    · rw [hwrite_text, hread_text]
    · have hobject : ∀ s, ofRecord write r ≠ .string s := fun _ => Json.noConfusion
      rw [hwrite_record, hread_record _ hobject, h.record.read_write, Option.map_some]
  eq_write json b hproper hread := by
    by_cases hstring : ∃ s, json = .string s
    · obtain ⟨s, rfl⟩ := hstring
      rw [hread_text] at hread
      cases hread
      exact (hwrite_text s).symm
    · rw [hread_record json (not_exists.mp hstring)] at hread
      obtain ⟨r, hr, rfl⟩ := Option.map_eq_some_iff.mp hread
      exact (h.record.eq_write json r hproper hr).trans (hwrite_record r).symm

theorem exact_remark : Exact remark? ofRemark := by
  refine exact_string.list.text_or_record .direction .speech (fun remark => ?_) (fun _ => rfl)
    (fun json hjson => ?_) (fun _ => rfl) (fun _ => rfl)
  · cases remark with
    | direction text => exact .inl ⟨text, rfl⟩
    | speech lines => exact .inr ⟨lines, rfl⟩
  · rw [remark?]
    exact hjson

theorem exact_sceneEntry : Exact sceneEntry? ofSceneEntry := by
  refine exact_remark.list.text_or_record .marker .scene (fun entry => ?_) (fun _ => rfl)
    (fun json hjson => ?_) (fun _ => rfl) (fun _ => rfl)
  · cases entry with
    | marker text => exact .inl ⟨text, rfl⟩
    | scene remarks => exact .inr ⟨remarks, rfl⟩
  · unfold sceneEntry?
    split
    · next text => exact absurd rfl (hjson text)
    · rfl

theorem exact_roster : Exact (list? (record? string?)) ofRoster :=
  exact_string.record.list

theorem exact_plot : Exact (list? (record? (list? sceneEntry?))) ofPlot :=
  exact_sceneEntry.list.record.list

/-! ## Fields -/

theorem field?_eq_none_iff :
    (object fields).field? name = none ↔ name ∉ fields.map (·.1) := by
  rw [field?, List.lookup_eq_none_iff, List.mem_map]
  constructor
  · rintro h ⟨field, hfield, rfl⟩
    simpa using h field (List.mem_reverse.mpr hfield)
  · rintro h field hfield
    exact bne_iff_ne.mpr fun hname => h ⟨field, List.mem_reverse.mp hfield, hname.symm⟩

/-- If the names are pairwise distinct, it does not matter where a field stands. -/
theorem field?_eq_some_iff (hdistinct : (fields.map (·.1)).Nodup) :
    (object fields).field? name = some value ↔ (name, value) ∈ fields := by
  have hmem : ∀ {found}, (object fields).field? name = some found → (name, found) ∈ fields := by
    intro found hfound
    obtain ⟨before, after, hsplit, -⟩ := List.lookup_eq_some_iff.mp hfound
    rw [← List.mem_reverse, hsplit]
    simp
  refine ⟨hmem, fun hfield => ?_⟩
  cases hfound : (object fields).field? name with
  | none => exact absurd (List.mem_map_of_mem hfield) (field?_eq_none_iff.mp hfound)
  | some found =>
    have hsame := List.inj_on_of_nodup_map hdistinct (hmem hfound) hfield rfl
    cases hsame
    rfl

/-- A field is missing, or there is just one value in it. -/
theorem field?_cases (hdistinct : (fields.map (·.1)).Nodup) (name : String) :
    ((object fields).field? name = none ∧ name ∉ fields.map (·.1)) ∨
    ∃ value, (object fields).field? name = some value ∧
      ∀ other, (name, other) ∈ fields ↔ other = value := by
  cases hfound : (object fields).field? name with
  | none => exact .inl ⟨rfl, field?_eq_none_iff.mp hfound⟩
  | some value =>
    refine .inr ⟨value, rfl, fun other => ?_⟩
    rw [← field?_eq_some_iff hdistinct, hfound, Option.some.injEq, eq_comm]

theorem text?_field?_eq_some_iff (hdistinct : (fields.map (·.1)).Nodup) {text : Option String} :
    text? ((object fields).field? name) = some text ↔ TextIn fields name text := by
  rcases field?_cases hdistinct name with ⟨hnone, hnot⟩ | ⟨value, hvalue, hsome⟩
  · have hmissing : ∀ value, (name, value) ∉ fields := fun _ hmem =>
      hnot (List.mem_map_of_mem hmem)
    rw [hnone]
    cases text with
    | none => exact iff_of_true rfl (.inr hnot)
    | some s => exact iff_of_false nofun (hmissing _)
  · have hname : name ∈ fields.map (·.1) := List.mem_map_of_mem ((hsome value).mpr rfl)
    rw [hvalue]
    cases text with
    | none =>
      rw [TextIn, hsome, or_iff_left (not_not_intro hname)]
      cases value <;> simp [text?]
    | some s =>
      rw [TextIn, hsome]
      cases value <;> simp [text?, eq_comm]

theorem Exact.field_of_mem (h : Exact read? write) (hdistinct : (fields.map (·.1)).Nodup) {a : α}
    (hmem : (name, write a) ∈ fields) : ((object fields).field? name).bind read? = some a := by
  rw [(field?_eq_some_iff hdistinct).mpr hmem, Option.bind_some, h.read_write]

theorem Exact.mem_of_field (h : Exact read? write) (hproper : (object fields).Proper) {a : α}
    (hread : ((object fields).field? name).bind read? = some a) : (name, write a) ∈ fields := by
  obtain ⟨hdistinct, hvalues⟩ := proper_object_iff.mp hproper
  obtain ⟨value, hfield, hvalue⟩ := Option.bind_eq_some_iff.mp hread
  have hmem := (field?_eq_some_iff hdistinct).mp hfield
  rwa [← h.eq_write value a (hvalues _ hmem) hvalue]

/-- A roster that is missing is empty. -/
theorem rosterRecords?_eq_some_iff {found : Option Json} {characters : List (Record String)} :
    rosterRecords? found = some characters ↔
      found.bind (list? (record? string?)) = some characters ∨ found = none ∧ characters = [] := by
  cases found with
  | none => simp [rosterRecords?, eq_comm]
  | some json => simp [rosterRecords?]

end Json

/-! ## Documents -/

namespace Script

variable {script : Script} {fields unknown others : List (String × Json)}

open Json

theorem ofJson?_object_eq_some_iff : ofJson? (.object fields) = some script ↔
    text? ((object fields).field? "TITLE") = some script.title ∧
    text? ((object fields).field? "BY") = some script.author ∧
    text? ((object fields).field? "SYNOPSIS") = some script.synopsis ∧
    rosterRecords? ((object fields).field? "CHARACTERS") = some script.characters ∧
    ((object fields).field? "PLOT").bind (list? (record? (list? sceneEntry?)))
      = some script.plot := by
  simp only [ofJson?, bind, Option.bind_eq_some_iff, Option.some.injEq]
  constructor
  · rintro ⟨title, htitle, author, hauthor, synopsis, hsynopsis, characters, hcharacters, plot,
      hplot, rfl⟩
    exact ⟨htitle, hauthor, hsynopsis, hcharacters, hplot⟩
  · rintro ⟨htitle, hauthor, hsynopsis, hcharacters, hplot⟩
    exact ⟨_, htitle, _, hauthor, _, hsynopsis, _, hcharacters, _, hplot, rfl⟩

/-- A script that is written is read. -/
theorem WrittenIn.ofJson?_eq (h : script.WrittenIn fields) :
    ofJson? (.object fields) = some script := by
  rw [ofJson?_object_eq_some_iff, text?_field?_eq_some_iff h.distinct,
    text?_field?_eq_some_iff h.distinct, text?_field?_eq_some_iff h.distinct,
    rosterRecords?_eq_some_iff, field?_eq_none_iff]
  exact ⟨h.title, h.author, h.synopsis,
    h.characters.imp_left (exact_roster.field_of_mem h.distinct),
    exact_plot.field_of_mem h.distinct h.plot⟩

/-- A script that is read is written. -/
theorem writtenIn_of_ofJson? (hproper : (object fields).Proper)
    (h : ofJson? (.object fields) = some script) : script.WrittenIn fields := by
  have hdistinct := (proper_object_iff.mp hproper).1
  rw [ofJson?_object_eq_some_iff, text?_field?_eq_some_iff hdistinct,
    text?_field?_eq_some_iff hdistinct, text?_field?_eq_some_iff hdistinct,
    rosterRecords?_eq_some_iff, field?_eq_none_iff] at h
  obtain ⟨htitle, hauthor, hsynopsis, hcharacters, hplot⟩ := h
  exact ⟨hdistinct, htitle, hauthor, hsynopsis,
    hcharacters.imp_left (exact_roster.mem_of_field hproper), exact_plot.mem_of_field hproper hplot⟩

theorem writtenIn_fields (script : Script) : script.WrittenIn script.fields where
  distinct := by simp [Script.fields]
  title := by cases h : script.title <;> simp [TextIn, Script.fields, ofOption, h]
  author := by cases h : script.author <;> simp [TextIn, Script.fields, ofOption, h]
  synopsis := by cases h : script.synopsis <;> simp [TextIn, Script.fields, ofOption, h]
  characters := .inl (by simp [Script.fields])
  plot := by simp [Script.fields]

/-- The order of the fields does not matter, and neither do fields of other names. -/
theorem WrittenIn.among (h : script.WrittenIn fields)
    (hunknown : ∀ field ∈ unknown, field.1 ∉ fieldNames) (hdistinct : (others.map (·.1)).Nodup)
    (hperm : others.Perm (fields ++ unknown)) : script.WrittenIn others := by
  have hmem : ∀ {field}, field ∈ fields → field ∈ others := fun hfield =>
    hperm.mem_iff.mpr (List.mem_append_left _ hfield)
  have hmissing : ∀ {name}, name ∈ fieldNames → name ∉ fields.map (·.1) →
      name ∉ others.map (·.1) := by
    intro name hname hnot hother
    obtain ⟨field, hfield, rfl⟩ := List.mem_map.mp hother
    rcases List.mem_append.mp (hperm.mem_iff.mp hfield) with hold | hnew
    · exact hnot (List.mem_map_of_mem hold)
    · exact hunknown field hnew hname
  have htext : ∀ {name text}, name ∈ fieldNames → TextIn fields name text →
      TextIn others name text := by
    intro name text hname htext
    cases text with
    | none => exact htext.imp hmem (hmissing hname)
    | some s => exact hmem htext
  exact ⟨hdistinct, htext (by decide) h.title, htext (by decide) h.author,
    htext (by decide) h.synopsis, h.characters.imp hmem (And.imp_left (hmissing (by decide))),
    hmem h.plot⟩

/-- **Which objects hold a script, and which one.** Every script is written in its fields. They may
come in any order and with any others, and are read as that script. An object in which no name is
written twice is read only as a script that is written in it; if there is none, it is refused. -/
theorem ofJson?_written :
    (∀ script : Script, script.WrittenIn script.fields) ∧
    (∀ (script : Script) (fields unknown others : List (String × Json)), script.WrittenIn fields →
      (∀ field ∈ unknown, field.1 ∉ fieldNames) → (others.map (·.1)).Nodup →
      others.Perm (fields ++ unknown) → ofJson? (.object others) = some script) ∧
    ∀ fields : List (String × Json), (object fields).Proper →
      (∀ script : Script, ofJson? (.object fields) = some script ↔ script.WrittenIn fields) ∧
      (ofJson? (.object fields) = none ↔ ∀ script : Script, ¬script.WrittenIn fields) := by
  refine ⟨writtenIn_fields, fun script fields unknown others h hunknown hdistinct hperm =>
    (h.among hunknown hdistinct hperm).ofJson?_eq, fun fields hproper => ?_⟩
  have hiff : ∀ script : Script, ofJson? (.object fields) = some script ↔ script.WrittenIn fields :=
    fun script => ⟨writtenIn_of_ofJson? hproper, WrittenIn.ofJson?_eq⟩
  refine ⟨hiff, ?_⟩
  rw [Option.eq_none_iff_forall_ne_some]
  exact forall_congr' fun script => not_congr (hiff script)

/-- A roster that is null is none, and without a plot there is no script. -/
example : ofJson? (.object [("CHARACTERS", .null), ("PLOT", .array [])]) = none ∧
    ofJson? (.object [("TITLE", .string "Nothing")]) = none :=
  ⟨rfl, rfl⟩

/-- A script in which a roster entry has two keys and the act a scene after its end. -/
def postcard : Script where
  title := some "Postcard"
  characters := [.single "Ann" "A guest. [User]", { entries := [("Bob", "A host."), ("Eve", "")] }]
  plot := [.single "ACT 1" [
    .scene (.single "SCENE 1"
      [.direction "[Rain.]", .speech (.single "Ann" ["(To Bob)Wish you were here."])]),
    .marker "CURTAIN", .scene (.single "SCENE 9" [.speech (.single "Eve" ["[Reads it.]"])])]]

/-- A document in which a line is null, in a scene after the end of the act. -/
def tornFields : List (String × Json) :=
  [("PLOT", .array [.object [("ACT 1", .array [.string "CURTAIN",
    .object [("SCENE 9", .array [.object [("Eve", .array [.null])]])]])]])]

theorem ofJson?_written_postcard : postcard.WrittenIn postcard.fields ∧
    ofJson? (.object (("NOTES", .array [.null, .number "7"]) :: postcard.fields.reverse))
      = some postcard ∧
    (object tornFields).Proper ∧ ofJson? (.object tornFields) = none ∧
    ∀ script : Script, ¬script.WrittenIn tornFields := by
  obtain ⟨hfields, hread, hexact⟩ := ofJson?_written
  have hproper : (object tornFields).Proper := by
    simp [tornFields, proper_object_iff, proper_array_iff, Proper.string, Proper.null]
  have hperm : (("NOTES", Json.array [.null, .number "7"]) :: postcard.fields.reverse).Perm
      (postcard.fields ++ [("NOTES", .array [.null, .number "7"])]) :=
    ((List.reverse_perm _).cons _).trans (List.perm_append_singleton _ _).symm
  exact ⟨hfields postcard, hread postcard _ _ _ (hfields postcard) (by simp [fieldNames]) (by decide)
    hperm, hproper, rfl, (hexact tornFields hproper).2.mp rfl⟩

end Script

end Dramaturgy
