import Dramaturgy.Json.Reader
import Dramaturgy.Json.Writer

/-!
# What is written as JSON can be read

The text of a value, in whichever layout, is read as that value (`parse?_render`). So the layout
does not matter, and no value is lost or taken for another one.

`tokens` lists the tokens of a value. Both halves of the reader are followed through the value: the
text of it holds these tokens (`tokens?_write`), and from them the value is put together again
(`readFrom?_tokens`). Numbers are kept as they are written, so that a value has to be legible: what
it calls a number has to be one.
-/

namespace Dramaturgy.Json

/-! ## The tokens of a value -/

mutual

/-- The tokens of a value. -/
def tokens : Json → List Token
  | .null => [.scalar .null]
  | .bool value => [.scalar (.bool value)]
  | .number literal => [.scalar (.number literal)]
  | .string s => [.scalar (.string s)]
  | .array [] => [.arrayOpen, .arrayClose]
  | .array (item :: items) => .arrayOpen :: item.tokens ++ itemTokens items ++ [.arrayClose]
  | .object [] => [.objectOpen, .objectClose]
  | .object ((name, value) :: fields) =>
    .objectOpen :: .scalar (.string name) :: .colon :: value.tokens ++ fieldTokens fields ++
      [.objectClose]

/-- The tokens of the items of an array after the first. -/
def itemTokens : List Json → List Token
  | [] => []
  | item :: items => .comma :: item.tokens ++ itemTokens items

/-- The tokens of the fields of an object after the first. -/
def fieldTokens : List (String × Json) → List Token
  | [] => []
  | (name, value) :: fields =>
    .comma :: .scalar (.string name) :: .colon :: value.tokens ++ fieldTokens fields

end

/-- What some tokens call a number is one. -/
def Legible (tokens : List Token) : Prop :=
  ∀ literal, .scalar (.number literal) ∈ tokens → isNumber literal.toList = true

@[simp] theorem legible_nil : Legible [] := nofun

@[simp] theorem legible_append {ts us : List Token} :
    Legible (ts ++ us) ↔ Legible ts ∧ Legible us := by
  simp [Legible, or_imp, forall_and]

@[simp] theorem legible_cons {t : Token} {ts : List Token} : Legible (t :: ts) ↔
    (∀ literal, .scalar (.number literal) = t → isNumber literal.toList = true) ∧ Legible ts := by
  simp only [Legible, List.mem_cons, or_imp, forall_and]

@[simp] theorem legible_itemTokens {items : List Json} :
    Legible (itemTokens items) ↔ ∀ item ∈ items, Legible item.tokens := by
  induction items with
  | nil => simp [itemTokens]
  | cons item items ih => simp [itemTokens, ih]

@[simp] theorem legible_fieldTokens {fields : List (String × Json)} :
    Legible (fieldTokens fields) ↔ ∀ field ∈ fields, Legible field.2.tokens := by
  induction fields with
  | nil => simp [fieldTokens]
  | cons field fields ih =>
    obtain ⟨name, value⟩ := field
    simp only [fieldTokens, legible_append, legible_cons, ih, List.forall_mem_cons]
    simp

/-- An array is legible if its items are. -/
@[simp] theorem legible_array {items : List Json} :
    Legible (array items).tokens ↔ ∀ item ∈ items, Legible item.tokens := by
  cases items <;> simp [tokens]

/-- An object is legible if the values of its fields are. -/
@[simp] theorem legible_object {fields : List (String × Json)} :
    Legible (object fields).tokens ↔ ∀ field ∈ fields, Legible field.2.tokens := by
  rcases fields with _ | ⟨⟨name, value⟩, fields⟩
  · simp [tokens]
  · simp only [tokens, legible_append, legible_cons, legible_fieldTokens, List.forall_mem_cons]
    simp

@[simp] theorem legible_string (s : String) : Legible (string s).tokens := by
  simp [tokens]

@[simp] theorem legible_null : Legible null.tokens := by
  simp [tokens]

/-! ## Scanning -/

/-- Tokens that are complete stay what they are. -/
theorem scanFrom?_eq_map : ∀ (s : List Char) (done : List Token) (scan : Scan),
    scanFrom? done scan s = (scanFrom? [] scan s).map (done.reverse ++ ·)
  | [], done, scan => by
    rw [scanFrom?, scanFrom?]
    cases scan.finish? <;> simp
  | c :: s, done, scan => by
    rw [scanFrom?, scanFrom?]
    cases scan.step? c with
    | none => rfl
    | some next =>
      show scanFrom? (next.1.reverse ++ done) next.2 s
        = (scanFrom? (next.1.reverse ++ []) next.2 s).map (done.reverse ++ ·)
      rw [scanFrom?_eq_map s (next.1.reverse ++ done), scanFrom?_eq_map s (next.1.reverse ++ [])]
      simp [Function.comp_def]

theorem scanFrom?_cons {c : Char} {scan scan' : Scan} {completed : List Token} (s : List Char)
    (h : scan.step? c = some (completed, scan')) :
    scanFrom? [] scan (c :: s) = (scanFrom? [] scan' s).map (completed ++ ·) := by
  rw [scanFrom?, h]
  simp only
  rw [scanFrom?_eq_map]
  simp

/-- A character that is a token. -/
theorem tokens?_cons {c : Char} {t : Token} (s : List Char)
    (h : begin? c = some ([t], .between)) : tokens? (c :: s) = (tokens? s).map (t :: ·) := by
  have hstep : Scan.between.step? c = some ([t], .between) := h
  exact scanFrom?_cons s hstep

theorem tokens?_cons_blank {c : Char} (s : List Char) (h : begin? c = some ([], .between)) :
    tokens? (c :: s) = tokens? s := by
  have hstep : Scan.between.step? c = some ([], .between) := h
  simpa [tokens?] using scanFrom?_cons s hstep

theorem tokens?_replicate_blank (n : Nat) (s : List Char) :
    tokens? (List.replicate n ' ' ++ s) = tokens? s := by
  induction n with
  | zero => rfl
  | succ n ih => rw [List.replicate_succ, List.cons_append, tokens?_cons_blank _ rfl, ih]

theorem tokens?_break (layout : Layout) (depth : Nat) (s : List Char) :
    tokens? (layout.break depth ++ s) = tokens? s := by
  cases layout with
  | compact => rfl
  | indented =>
    rw [Layout.break, List.cons_append, tokens?_cons_blank _ rfl, tokens?_replicate_blank]

theorem tokens?_colon (layout : Layout) (s : List Char) :
    tokens? (layout.colon ++ s) = (tokens? s).map (.colon :: ·) := by
  cases layout with
  | compact => exact tokens?_cons s rfl
  | indented =>
    show tokens? (':' :: ' ' :: s) = _
    rw [tokens?_cons _ rfl, tokens?_cons_blank _ rfl]

/-! ### Strings -/

theorem hexValue?_hexDigit : ∀ n < 16, Text.hexValue? (hexDigit n) = some n := by
  decide

/-- A code unit that is written with four digits. -/
theorem scanFrom?_unit {c : Char} (chars s : List Char) (h : c.toNat < 0x20) :
    scanFrom? [] (.text chars)
        ('\\' :: 'u' :: '0' :: '0' :: hexDigit (c.toNat / 16) :: hexDigit (c.toNat % 16) :: s)
      = scanFrom? [] (.text (c :: chars)) s := by
  have hhigh : Text.hexValue? (hexDigit (c.toNat / 16)) = some (c.toNat / 16) :=
    hexValue?_hexDigit _ (by omega)
  have hlow : Text.hexValue? (hexDigit (c.toNat % 16)) = some (c.toNat % 16) :=
    hexValue?_hexDigit _ (by omega)
  have hzero : Text.hexValue? '0' = some 0 := by decide
  have hunit : 16 * (c.toNat / 16) + c.toNat % 16 = c.toNat := Nat.div_add_mod ..
  have hplain : afterUnit? chars none c.toNat = some (.text (c :: chars)) := by
    rw [afterUnit?, Char.ofNat_toNat]
    grind
  simp [scanFrom?, Scan.step?, hhigh, hlow, hzero, hunit, hplain]

/-- A character in a string is read as it was. -/
theorem scanFrom?_escapeChar (c : Char) (chars s : List Char) :
    scanFrom? [] (.text chars) (escapeChar c ++ s) = scanFrom? [] (.text (c :: chars)) s := by
  unfold escapeChar
  split
  · next h => subst h; rfl
  split
  · next h => subst h; rfl
  split
  · -- the control characters, five of which have a letter
    next hcontrol =>
    split
    · next h => subst h; rfl
    split
    · next h => subst h; rfl
    split
    · next h => subst h; rfl
    split
    · next h =>
      obtain rfl : c = '\x08' := Char.toNat_inj.mp h
      rfl
    split
    · next h =>
      obtain rfl : c = '\x0c' := Char.toNat_inj.mp h
      rfl
    · exact scanFrom?_unit chars s hcontrol
  · next hquote hslash hcontrol =>
    simp [scanFrom?, Scan.step?, hquote, hslash, hcontrol]

theorem scanFrom?_chars : ∀ (cs chars s : List Char),
    scanFrom? [] (.text chars) (cs.flatMap escapeChar ++ s)
      = scanFrom? [] (.text (cs.reverse ++ chars)) s
  | [], chars, s => rfl
  | c :: cs, chars, s => by
    rw [List.flatMap_cons, List.append_assoc, scanFrom?_escapeChar, scanFrom?_chars cs]
    simp

theorem tokens?_writeString (v : String) (s : List Char) :
    tokens? (writeString v ++ s) = (tokens? s).map (.scalar (.string v) :: ·) := by
  have hopen : Scan.between.step? '"' = some ([], .text []) := rfl
  have hclose : (Scan.text v.toList.reverse).step? '"'
      = some ([.scalar (.string v)], .between) := by
    simp [Scan.step?]
  rw [writeString, List.cons_append, List.cons_append, List.append_assoc, tokens?,
    scanFrom?_cons _ hopen, scanFrom?_chars, List.append_nil, List.singleton_append,
    scanFrom?_cons _ hclose]
  cases h : tokens? s <;> rw [tokens?] at h <;> simp [h]

/-! ### Words -/

/-- A word that stands before this text ends there. -/
def Stops (s : List Char) : Prop :=
  ∀ c ∈ s.head?, isWordChar c = false

theorem stops_nil : Stops [] := nofun

theorem stops_cons {c : Char} (s : List Char) (h : isWordChar c = false) : Stops (c :: s) := by
  simpa [Stops] using h

theorem stops_break {s : List Char} (layout : Layout) (depth : Nat) (h : Stops s) :
    Stops (layout.break depth ++ s) := by
  cases layout with
  | compact => exact h
  | indented => exact stops_cons _ rfl

theorem stops_writeItems {s : List Char} (layout : Layout) (depth : Nat) (h : Stops s) :
    ∀ items : List Json, Stops (writeItems layout depth items ++ s)
  | [] => by rwa [writeItems]
  | item :: items => by
    rw [writeItems]
    exact stops_cons _ rfl

theorem stops_writeFields {s : List Char} (layout : Layout) (depth : Nat) (h : Stops s) :
    ∀ fields : List (String × Json), Stops (writeFields layout depth fields ++ s)
  | [] => by rwa [writeFields]
  | (name, value) :: fields => by
    rw [writeFields]
    exact stops_cons _ rfl

theorem begin?_wordChar {c : Char} (h : isWordChar c = true) : begin? c = some ([], .word [c]) := by
  have hspace : isSpace c = false := by
    rw [Bool.eq_false_iff]
    intro hspace
    simp only [isSpace, Bool.or_eq_true, beq_iff_eq] at hspace
    rcases hspace with ((rfl | rfl) | rfl) | rfl <;> cases h
  have hquote : c ≠ '"' := by
    rintro rfl
    cases h
  simp [begin?, hspace, hquote, h]

theorem scanFrom?_wordChars : ∀ (cs letters s : List Char), (∀ c ∈ cs, isWordChar c = true) →
    scanFrom? [] (.word letters) (cs ++ s) = scanFrom? [] (.word (cs.reverse ++ letters)) s
  | [], letters, s, _ => rfl
  | c :: cs, letters, s, h => by
    have hstep : (Scan.word letters).step? c = some ([], .word (c :: letters)) := by
      simp [Scan.step?, h c (by simp)]
    rw [List.cons_append, scanFrom?_cons _ hstep,
      scanFrom?_wordChars cs (c :: letters) s fun d hd => h d (List.mem_cons_of_mem _ hd)]
    simp

theorem scanFrom?_endOfWord {letters s : List Char} {value : Json} (hs : Stops s)
    (h : ofWord? letters = some value) :
    scanFrom? [] (.word letters) s = (tokens? s).map (.scalar value :: ·) := by
  cases s with
  | nil => simp [scanFrom?, Scan.finish?, h, tokens?]
  | cons c s =>
    have hc : isWordChar c = false := hs c rfl
    cases hbegin : begin? c with
    | none =>
      have hstep : Scan.between.step? c = none := hbegin
      simp [scanFrom?, Scan.step?, hc, h, hbegin, tokens?]
    | some next =>
      have hstep : Scan.between.step? c = some next := hbegin
      have hword : (Scan.word letters).step? c = some (.scalar value :: next.1, next.2) := by
        simp [Scan.step?, hc, h, hbegin]
      rw [scanFrom?_cons s hword, tokens?, scanFrom?_cons s hstep]
      simp [Function.comp_def]

/-- A word is read as what it stands for. -/
theorem tokens?_word {word s : List Char} {value : Json} (hs : Stops s)
    (hword : ∀ c ∈ word, isWordChar c = true) (h : ofWord? word.reverse = some value) :
    tokens? (word ++ s) = (tokens? s).map (.scalar value :: ·) := by
  cases word with
  | nil => cases h
  | cons c cs =>
    have hbegin : Scan.between.step? c = some ([], .word [c]) := begin?_wordChar (hword c (by simp))
    rw [List.cons_append, tokens?, scanFrom?_cons _ hbegin,
      scanFrom?_wordChars _ _ _ fun d hd => hword d (List.mem_cons_of_mem _ hd),
      scanFrom?_endOfWord hs (by simpa using h)]
    simp [Function.comp_def]

/-! ### Numbers -/

theorem isWordChar_of_isDigit {c : Char} (h : c.isDigit = true) : isWordChar c = true := by
  simp [isWordChar, Char.isAlphanum, h]

theorem wordChars_of_dropDigits? {cs rest : List Char} (h : dropDigits? cs = some rest)
    (hrest : ∀ c ∈ rest, isWordChar c = true) : ∀ c ∈ cs, isWordChar c = true := by
  cases cs with
  | nil => cases h
  | cons c cs =>
    rw [dropDigits?] at h
    split at h
    · next hc =>
      cases h
      intro d hd
      rcases List.mem_cons.mp hd with rfl | hd
      · exact isWordChar_of_isDigit hc
      · rw [← List.takeWhile_append_dropWhile (p := (·.isDigit)) (l := cs)] at hd
        rcases List.mem_append.mp hd with hd | hd
        · exact isWordChar_of_isDigit (List.all_eq_true.mp List.all_takeWhile d hd)
        · exact hrest d hd
    · cases h

/-- The parts of a number, from its end to its beginning, consist of characters of words. -/
theorem wordChars_of_isNumber {word : List Char} (h : isNumber word = true) :
    ∀ c ∈ word, isWordChar c = true := by
  have hcons : ∀ {c : Char} {cs : List Char}, isWordChar c = true →
      (∀ d ∈ cs, isWordChar d = true) → ∀ d ∈ c :: cs, isWordChar d = true :=
    fun hc hcs => List.forall_mem_cons.mpr ⟨hc, hcs⟩
  have hnil : ∀ d ∈ ([] : List Char), isWordChar d = true := nofun
  simp only [isNumber, beq_iff_eq, Option.bind_eq_some_iff] at h
  obtain ⟨exponent, ⟨fraction, hinteger, hfraction⟩, hexponent⟩ := h
  have hexponent' : ∀ c ∈ exponent, isWordChar c = true := by
    split at hexponent
    · exact hcons rfl (hcons rfl (wordChars_of_dropDigits? hexponent hnil))
    · exact hcons rfl (hcons rfl (wordChars_of_dropDigits? hexponent hnil))
    · exact hcons rfl (hcons rfl (wordChars_of_dropDigits? hexponent hnil))
    · exact hcons rfl (hcons rfl (wordChars_of_dropDigits? hexponent hnil))
    · exact hcons rfl (wordChars_of_dropDigits? hexponent hnil)
    · exact hcons rfl (wordChars_of_dropDigits? hexponent hnil)
    · cases hexponent
      exact hnil
  have hfraction' : ∀ c ∈ fraction, isWordChar c = true := by
    split at hfraction
    · exact hcons rfl (wordChars_of_dropDigits? hfraction hexponent')
    · cases hfraction
      exact hexponent'
  split at hinteger
  · next hzero =>
    cases hinteger
    split at hzero
    · subst hzero
      exact hcons rfl (hcons rfl hfraction')
    · subst hzero
      exact hcons rfl hfraction'
  · have hunsigned := wordChars_of_dropDigits? hinteger hfraction'
    split at hunsigned
    · exact hcons rfl hunsigned
    · exact hunsigned

theorem ofWord?_of_isNumber {literal : String} (h : isNumber literal.toList = true) :
    ofWord? literal.toList.reverse = some (.number literal) := by
  have hnull : literal.toList ≠ "null".toList := by
    intro heq
    rw [heq] at h
    cases h
  have htrue : literal.toList ≠ "true".toList := by
    intro heq
    rw [heq] at h
    cases h
  have hfalse : literal.toList ≠ "false".toList := by
    intro heq
    rw [heq] at h
    cases h
  simp only [ofWord?, List.reverse_reverse, beq_iff_eq, hnull, htrue, hfalse, h, if_true, if_false,
    String.ofList_toList]

/-! ### Values -/

mutual

/-- **The text of a value holds its tokens.** -/
theorem tokens?_write (layout : Layout) : ∀ (value : Json) (depth : Nat) {s : List Char},
    Legible value.tokens → Stops s →
      tokens? (write layout depth value ++ s) = (tokens? s).map (value.tokens ++ ·)
  | .null, depth, s, _, hs => by
    have hchars : "null".toList.all isWordChar = true := rfl
    have hword : ofWord? "null".toList.reverse = some .null := rfl
    rw [write, tokens, tokens?_word hs (List.all_eq_true.mp hchars) hword]
    rfl
  | .bool true, depth, s, _, hs => by
    have hchars : "true".toList.all isWordChar = true := rfl
    have hword : ofWord? "true".toList.reverse = some (.bool true) := rfl
    rw [write, tokens, tokens?_word hs (List.all_eq_true.mp hchars) hword]
    rfl
  | .bool false, depth, s, _, hs => by
    have hchars : "false".toList.all isWordChar = true := rfl
    have hword : ofWord? "false".toList.reverse = some (.bool false) := rfl
    rw [write, tokens, tokens?_word hs (List.all_eq_true.mp hchars) hword]
    rfl
  | .number literal, depth, s, h, hs => by
    have hnumber : isNumber literal.toList = true := h literal (by simp [tokens])
    have hword := ofWord?_of_isNumber hnumber
    rw [write, tokens, tokens?_word hs (wordChars_of_isNumber hnumber) hword]
    rfl
  | .string v, depth, s, _, hs => by
    rw [write, tokens, tokens?_writeString]
    rfl
  | .array [], depth, s, _, hs => by
    show tokens? ('[' :: ']' :: s) = _
    rw [tokens, tokens?_cons _ rfl, tokens?_cons _ rfl, Option.map_map]
    rfl
  | .array (item :: items), depth, s, h, hs => by
    obtain ⟨hitem, hitems⟩ := List.forall_mem_cons.mp (legible_array.mp h)
    have hclose : Stops (layout.break depth ++ ']' :: s) := stops_break _ _ (stops_cons s rfl)
    simp only [write, tokens, List.cons_append, List.append_assoc, List.nil_append]
    rw [tokens?_cons _ rfl, tokens?_break,
      tokens?_write layout item _ hitem (stops_writeItems layout _ hclose items),
      tokens?_writeItems layout items _ hitems hclose, tokens?_break, tokens?_cons _ rfl]
    simp [Function.comp_def]
  | .object [], depth, s, _, hs => by
    show tokens? ('\x7b' :: '\x7d' :: s) = _
    rw [tokens, tokens?_cons _ rfl, tokens?_cons _ rfl, Option.map_map]
    rfl
  | .object ((name, value) :: fields), depth, s, h, hs => by
    obtain ⟨hvalue, hfields⟩ := List.forall_mem_cons.mp (legible_object.mp h)
    have hclose : Stops (layout.break depth ++ '\x7d' :: s) := stops_break _ _ (stops_cons s rfl)
    simp only [write, tokens, List.cons_append, List.append_assoc, List.nil_append]
    rw [tokens?_cons _ rfl, tokens?_break, tokens?_writeString, tokens?_colon,
      tokens?_write layout value _ hvalue (stops_writeFields layout _ hclose fields),
      tokens?_writeFields layout fields _ hfields hclose, tokens?_break, tokens?_cons _ rfl]
    simp [Function.comp_def]

theorem tokens?_writeItems (layout : Layout) : ∀ (items : List Json) (depth : Nat) {s : List Char},
    (∀ item ∈ items, Legible item.tokens) → Stops s →
      tokens? (writeItems layout depth items ++ s) = (tokens? s).map (itemTokens items ++ ·)
  | [], depth, s, _, hs => by simp [writeItems, itemTokens]
  | item :: items, depth, s, h, hs => by
    obtain ⟨hitem, hitems⟩ := List.forall_mem_cons.mp h
    simp only [writeItems, itemTokens, List.cons_append, List.append_assoc]
    rw [tokens?_cons _ rfl, tokens?_break,
      tokens?_write layout item _ hitem (stops_writeItems layout _ hs items),
      tokens?_writeItems layout items _ hitems hs]
    simp [Function.comp_def]

theorem tokens?_writeFields (layout : Layout) : ∀ (fields : List (String × Json)) (depth : Nat)
    {s : List Char}, (∀ field ∈ fields, Legible field.2.tokens) → Stops s →
      tokens? (writeFields layout depth fields ++ s) = (tokens? s).map (fieldTokens fields ++ ·)
  | [], depth, s, _, hs => by simp [writeFields, fieldTokens]
  | (name, value) :: fields, depth, s, h, hs => by
    obtain ⟨hvalue, hfields⟩ := List.forall_mem_cons.mp h
    simp only [writeFields, fieldTokens, List.cons_append, List.append_assoc]
    rw [tokens?_cons _ rfl, tokens?_break, tokens?_writeString, tokens?_colon,
      tokens?_write layout value _ hvalue (stops_writeFields layout _ hs fields),
      tokens?_writeFields layout fields _ hfields hs]
    simp [Function.comp_def]

end

/-! ## Reading -/

/-- A value begins in the same way, whether it is the first item of an array or not. -/
theorem readFrom?_atFirstItem (around : List Frame) (rest : List Token) : ∀ value : Json,
    readFrom? (.atFirstItem around) (value.tokens ++ rest)
      = readFrom? (.atValue (.array [] :: around)) (value.tokens ++ rest)
  | .null | .bool _ | .number _ | .string _ | .array [] | .object [] | .array (_ :: _)
  | .object ((_, _) :: _) => by
    rw [tokens]
    rfl

mutual

/-- **The tokens of a value are read as that value.** -/
theorem readFrom?_tokens : ∀ (value : Json) (around : List Frame) (rest : List Token),
    readFrom? (.atValue around) (value.tokens ++ rest) = readFrom? (.after value around) rest
  | .null, _, _ | .bool _, _, _ | .number _, _, _ | .string _, _, _ | .array [], _, _
  | .object [], _, _ => by
    rw [tokens]
    rfl
  | .array (item :: items), around, rest => by
    rw [tokens]
    show readFrom? (.atFirstItem around)
      (item.tokens ++ itemTokens items ++ [.arrayClose] ++ rest) = _
    simp only [List.append_assoc, List.singleton_append]
    rw [readFrom?_atFirstItem, readFrom?_tokens item, readFrom?_itemTokens items]
    rfl
  | .object ((name, value) :: fields), around, rest => by
    rw [tokens]
    show readFrom? (.atValue (.object [] name :: around))
      (value.tokens ++ fieldTokens fields ++ [.objectClose] ++ rest) = _
    simp only [List.append_assoc, List.singleton_append]
    rw [readFrom?_tokens value, readFrom?_fieldTokens fields]
    rfl

/-- The further items of an array, after those in `before` and the latest one. -/
theorem readFrom?_itemTokens : ∀ (items : List Json) (latest : Json) (before : List Json)
    (around : List Frame) (rest : List Token),
    readFrom? (.after latest (.array before :: around)) (itemTokens items ++ .arrayClose :: rest)
      = readFrom? (.after (.array (before.reverse ++ latest :: items)) around) rest
  | [], latest, before, around, rest => by
    show readFrom? (.after (.array (latest :: before).reverse) around) rest = _
    rw [List.reverse_cons]
  | item :: items, latest, before, around, rest => by
    rw [itemTokens]
    show readFrom? (.atValue (.array (latest :: before) :: around))
      (item.tokens ++ itemTokens items ++ .arrayClose :: rest) = _
    rw [List.append_assoc, readFrom?_tokens item, readFrom?_itemTokens items]
    simp

/-- The further fields of an object, after those in `before` and the latest one. -/
theorem readFrom?_fieldTokens : ∀ (fields : List (String × Json)) (name : String) (latest : Json)
    (before : List (String × Json)) (around : List Frame) (rest : List Token),
    readFrom? (.after latest (.object before name :: around))
        (fieldTokens fields ++ .objectClose :: rest)
      = readFrom? (.after (.object (before.reverse ++ (name, latest) :: fields)) around) rest
  | [], name, latest, before, around, rest => by
    show readFrom? (.after (.object ((name, latest) :: before).reverse) around) rest = _
    rw [List.reverse_cons]
  | (next, value) :: fields, name, latest, before, around, rest => by
    rw [fieldTokens]
    show readFrom? (.atValue (.object ((name, latest) :: before) next :: around))
      (value.tokens ++ fieldTokens fields ++ .objectClose :: rest) = _
    rw [List.append_assoc, readFrom?_tokens value, readFrom?_fieldTokens fields]
    simp

end

/-- **What is written can be read.** -/
theorem parse?_render {value : Json} (h : Legible value.tokens) (layout : Layout) :
    parse? (value.render layout) = some value := by
  have htokens : tokens? (write layout 0 value) = some value.tokens := by
    have hwrite := tokens?_write layout value 0 h stops_nil
    rw [List.append_nil] at hwrite
    rw [hwrite]
    simp [tokens?, scanFrom?, Scan.finish?]
  have hread : readFrom? (.atValue []) value.tokens = some (.after value []) := by
    have htokens := readFrom?_tokens value [] []
    rwa [List.append_nil] at htokens
  rw [parse?, render, String.toList_ofList, htokens, Option.bind_some, hread]

end Dramaturgy.Json
