import Dramaturgy.Line

/-!
# Where the marks of a text stand

`cut?` looks for a marker from the left. What it finds is the first occurrence (`FirstAt`), and it
finds one whenever there is one (`cut?_eq_some_iff`, `cut?_eq_none_iff`); that holds of the empty
marker, too. What the readers of bracketed text and of addresses take for open, closed or enclosed is
said here in terms of the text alone, so that it does not depend on how they look for it.
-/

namespace Dramaturgy

namespace Text

variable {m s a b a' b' : List Char}

/-- The marker `m` occurs in `s` between `a` and `b`, and nowhere earlier. -/
structure FirstAt (m s a b : List Char) : Prop where
  eq : s = a ++ m ++ b
  first : ∀ a' b', s = a' ++ m ++ b' → a.length ≤ a'.length

theorem FirstAt.unique (h : FirstAt m s a b) (h' : FirstAt m s a' b') : a = a' ∧ b = b' := by
  have hlen : a.length = a'.length := Nat.le_antisymm (h.first _ _ h'.eq) (h'.first _ _ h.eq)
  have heq : a ++ (m ++ b) = a' ++ (m ++ b') := by
    rw [← List.append_assoc, ← List.append_assoc, ← h.eq, ← h'.eq]
  obtain ⟨ha, hrest⟩ := List.append_inj heq hlen
  exact ⟨ha, List.append_cancel_left hrest⟩

/-- Where a marker stands, it is found. -/
theorem exists_cut? : ∀ {s a b : List Char}, s = a ++ m ++ b → ∃ p, cut? m s = some p
  | [], a, b, h => by
    obtain rfl : m = [] := by
      simp only [List.nil_eq, List.append_eq_nil_iff] at h
      exact h.1.2
    exact ⟨([], []), rfl⟩
  | c :: s, a, b, h => by
    rw [cut?]
    cases hafter : after? m (c :: s) with
    | some r => exact ⟨_, rfl⟩
    | none =>
      -- the marker does not stand at the start
      cases a with
      | nil =>
        have hstart := after?_eq_some_iff.mpr (show c :: s = m ++ b from h)
        rw [hafter] at hstart
        cases hstart
      | cons d a =>
        obtain ⟨p, hp⟩ := exists_cut? (List.cons.inj h).2
        exact ⟨_, by rw [hp, Option.map_some]⟩

theorem firstAt_of_cut? : ∀ {s a b : List Char}, cut? m s = some (a, b) → FirstAt m s a b
  | [], a, b, h => by
    refine ⟨eq_of_cut? h, fun a' b' _ => ?_⟩
    have ha : a = [] := by
      have heq := eq_of_cut? h
      simp only [List.nil_eq, List.append_eq_nil_iff] at heq
      exact heq.1.1
    rw [ha]
    exact Nat.zero_le _
  | c :: s, a, b, h => by
    refine ⟨eq_of_cut? h, fun a' b' h' => ?_⟩
    rw [cut?] at h
    cases hafter : after? m (c :: s) with
    | some r =>
      rw [hafter] at h
      cases h
      exact Nat.zero_le _
    | none =>
      rw [hafter] at h
      obtain ⟨⟨x, y⟩, hp, hpair⟩ := Option.map_eq_some_iff.mp h
      cases hpair
      cases a' with
      | nil =>
        have hstart := after?_eq_some_iff.mpr (show c :: s = m ++ b' from h')
        rw [hafter] at hstart
        cases hstart
      | cons d a' =>
        exact Nat.succ_le_succ ((firstAt_of_cut? hp).first a' b' (List.cons.inj h').2)

/-- A text is cut at the first occurrence of the marker. -/
theorem cut?_eq_some_iff : cut? m s = some (a, b) ↔ FirstAt m s a b := by
  refine ⟨firstAt_of_cut?, fun h => ?_⟩
  obtain ⟨⟨a', b'⟩, hcut⟩ := exists_cut? h.eq
  obtain ⟨rfl, rfl⟩ := h.unique (firstAt_of_cut? hcut)
  exact hcut

/-- A text is not cut if the marker does not occur in it. -/
theorem cut?_eq_none_iff : cut? m s = none ↔ ¬m <:+: s := by
  constructor
  · rintro h ⟨a, b, hs⟩
    obtain ⟨p, hp⟩ := exists_cut? hs.symm
    rw [h] at hp
    cases hp
  · intro h
    cases hcut : cut? m s with
    | none => rfl
    | some p => exact absurd ⟨p.1, p.2, (eq_of_cut? hcut).symm⟩ h

end Text

namespace Vocabulary

open Text

variable {v : Vocabulary} {text line : String}

/-! ## Brackets -/

/-- A bracket is opened in a text, and after the first such place it is never closed. -/
def Unclosed (v : Vocabulary) (text : String) : Prop :=
  ∃ before rest, FirstAt v.tagsOpen.toList text.toList before rest ∧
    ¬v.tagsClose.toList <:+: rest

/-- A text is enclosed in a pair of brackets. -/
def Encloses (v : Vocabulary) (text : String) : Prop :=
  ∃ inner : String, text = v.tagsOpen ++ inner ++ v.tagsClose

theorem bracketed_eq_unclosed_iff {other : String} :
    v.bracketed text = .unclosed other ↔ other = text ∧ v.Unclosed text := by
  unfold bracketed Unclosed
  cases hopen : cut? v.tagsOpen.toList text.toList with
  | none =>
    refine iff_of_false nofun ?_
    rintro ⟨-, before, rest, hfirst, -⟩
    rw [cut?_eq_some_iff.mpr hfirst] at hopen
    cases hopen
  | some p =>
    obtain ⟨before, rest⟩ := p
    have hfirst := cut?_eq_some_iff.mp hopen
    cases hclose : cut? v.tagsClose.toList rest with
    | none =>
      have hnot := cut?_eq_none_iff.mp hclose
      simp only [hclose, Bracketed.unclosed.injEq]
      exact ⟨fun h => ⟨h.symm, before, rest, hfirst, hnot⟩, fun h => h.1.symm⟩
    | some q =>
      simp only [hclose]
      refine iff_of_false nofun ?_
      rintro ⟨-, before', rest', hfirst', hnot⟩
      obtain ⟨-, rfl⟩ := hfirst.unique hfirst'
      rw [cut?_eq_none_iff.mpr hnot] at hclose
      cases hclose

instance : Decidable (v.Unclosed text) :=
  decidable_of_iff (v.bracketed text = .unclosed text) (by simp [bracketed_eq_unclosed_iff])

theorem enclosed?_eq_some_iff {inner : String} :
    v.enclosed? text = some inner ↔ text = v.tagsOpen ++ inner ++ v.tagsClose := by
  simp only [enclosed?, Option.map_eq_some_iff, Option.bind_eq_some_iff, after?_eq_some_iff,
    before?_eq_some_iff]
  constructor
  · rintro ⟨x, ⟨y, htext, rfl⟩, rfl⟩
    rw [← String.toList_inj, htext]
    simp
  · rintro rfl
    exact ⟨inner.toList, ⟨_, by simp, rfl⟩, by simp⟩

theorem enclosed?_eq_none_iff : v.enclosed? text = none ↔ ¬v.Encloses text := by
  simp only [Encloses, ← enclosed?_eq_some_iff, Option.eq_none_iff_forall_ne_some, not_exists,
    ne_eq]

instance : Decidable (v.Encloses text) :=
  decidable_of_iff ((v.enclosed? text).isSome = true)
    (by simp only [Option.isSome_iff_exists, enclosed?_eq_some_iff, Encloses])

/-! ## Addresses -/

/-- A line starts with the mark that opens an address. -/
def OpensAddress (v : Vocabulary) (line : String) : Prop :=
  ∃ rest : String, line = v.addressOpen ++ rest

/-- A line starts with the mark that opens an address, and the address is never closed. -/
def UnclosedAddress (v : Vocabulary) (line : String) : Prop :=
  ∃ rest : String, line = v.addressOpen ++ rest ∧ ¬v.addressClose.toList <:+: rest.toList

/-- The tokens in the address of a line: what the separator divides the text into that stands
between the mark that opens the address and the first one that closes it. -/
def addressTokens (v : Vocabulary) (line : String) : List String :=
  match (after? v.addressOpen.toList line.toList).bind (cut? v.addressClose.toList) with
  | none => []
  | some (address, _) => (split v.separator.toList address).map String.ofList

theorem after?_addressOpen_iff {rest : String} :
    after? v.addressOpen.toList line.toList = some rest.toList ↔ line = v.addressOpen ++ rest := by
  rw [after?_eq_some_iff, ← String.toList_inj, String.toList_append]

theorem lineForm_of_opens {rest : String} (h : line = v.addressOpen ++ rest) : v.lineForm line =
    match cut? v.addressClose.toList rest.toList with
    | none => .unclosed
    | some (address, text) =>
      .addressed ((split v.separator.toList address).map String.ofList) (String.ofList text) := by
  have hopen := after?_addressOpen_iff.mpr h
  unfold lineForm
  split
  · next hnone =>
    rw [hopen] at hnone
    cases hnone
  · next found hfound =>
    rw [hopen] at hfound
    cases hfound
    rfl

/-- A line does or does not start with the mark that opens an address, and is read accordingly. -/
theorem opens_cases (v : Vocabulary) (line : String) :
    (∃ rest : String, line = v.addressOpen ++ rest) ∨
      ¬v.OpensAddress line ∧ v.lineForm line = .direction := by
  cases hopen : after? v.addressOpen.toList line.toList with
  | none =>
    refine Or.inr ⟨?_, by rw [lineForm, hopen]⟩
    rintro ⟨rest, hline⟩
    rw [after?_addressOpen_iff.mpr hline] at hopen
    cases hopen
  | some rest =>
    rw [← String.toList_ofList (l := rest), after?_addressOpen_iff] at hopen
    exact Or.inl ⟨_, hopen⟩

theorem opensAddress_iff : v.OpensAddress line ↔ v.lineForm line ≠ .direction := by
  rcases opens_cases v line with ⟨rest, hline⟩ | ⟨hnot, hform⟩
  · refine iff_of_true ⟨rest, hline⟩ ?_
    rw [lineForm_of_opens hline]
    cases cut? v.addressClose.toList rest.toList <;> nofun
  · exact iff_of_false hnot (not_not_intro hform)

theorem unclosedAddress_iff : v.UnclosedAddress line ↔ v.lineForm line = .unclosed := by
  constructor
  · rintro ⟨rest, hline, hnot⟩
    rw [lineForm_of_opens hline, cut?_eq_none_iff.mpr hnot]
  · intro h
    rcases opens_cases v line with ⟨rest, hline⟩ | ⟨-, hform⟩
    · rw [lineForm_of_opens hline] at h
      cases hclose : cut? v.addressClose.toList rest.toList with
      | none => exact ⟨rest, hline, cut?_eq_none_iff.mp hclose⟩
      | some p => rw [hclose] at h; cases h
    · rw [hform] at h
      cases h

theorem addressTokens_eq : v.addressTokens line =
    match v.lineForm line with
    | .addressed tokens _ => tokens
    | _ => [] := by
  unfold addressTokens lineForm
  cases after? v.addressOpen.toList line.toList with
  | none => rfl
  | some rest =>
    simp only [Option.bind_some]
    cases cut? v.addressClose.toList rest <;> rfl

instance : Decidable (v.OpensAddress line) :=
  decidable_of_iff _ opensAddress_iff.symm

instance : Decidable (v.UnclosedAddress line) :=
  decidable_of_iff _ unclosedAddress_iff.symm

end Vocabulary

end Dramaturgy
