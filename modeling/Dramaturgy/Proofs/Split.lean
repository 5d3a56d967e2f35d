import Dramaturgy.Proofs.Blank
import Dramaturgy.Proofs.Marker
import Mathlib.Data.List.Infix

/-!
# How a text is split

A text is divided at the first separator in it, and what follows at the first one there, until there
is none left (`Divided`). That is how `split` goes about it, and all that has to be known of it:

* the pieces with the separator between them are the text (`intercalate_split`), also when the
  separator is empty;
* no piece holds a separator (`not_isInfix_of_mem_split`), but for the empty one;
* pieces without a separator that is a single character are found again (`split_intercalate`). Of
  longer separators that is not true, as they can come about where two pieces meet.
-/

namespace Dramaturgy.Text

variable {m s a b : List Char} {ps qs : List (List Char)}

/-- The pieces of a text, from the left. -/
inductive Divided (m : List Char) : List Char → List (List Char) → Prop where
  | whole {s : List Char} : ¬m <:+: s → Divided m s [s]
  | cut {s a b : List Char} {ps : List (List Char)} :
    FirstAt m s a b → Divided m b ps → Divided m s (a :: ps)

/-! ## Divided texts -/

/-- A marker does not occur before its first occurrence. -/
theorem FirstAt.not_isInfix (h : FirstAt m s a b) (hm : m ≠ []) : ¬m <:+: a := by
  rintro ⟨x, y, hxy⟩
  have hlen := h.first x (y ++ m ++ b) (by rw [h.eq, ← hxy]; simp)
  have hpos := List.length_pos_iff.mpr hm
  have hsum := congrArg List.length hxy
  simp only [List.length_append] at hsum
  omega

/-- What follows a marker somewhere is part of what follows its first occurrence. -/
theorem FirstAt.suffix {a' b' : List Char} (h : FirstAt m s a b)
    (h' : s = a' ++ m ++ b') : b' <:+ b := by
  refine List.suffix_of_suffix_length_le ⟨a' ++ m, h'.symm⟩ ⟨a ++ m, h.eq.symm⟩ ?_
  have hle := h.first a' b' h'
  have hlen := congrArg List.length (h.eq.symm.trans h')
  simp only [List.length_append] at hlen
  omega

namespace Divided

theorem ne_nil (h : Divided m s ps) : ps ≠ [] := by
  cases h <;> exact List.cons_ne_nil _ _

theorem intercalate_eq (h : Divided m s ps) : m.intercalate ps = s := by
  induction h with
  | whole _ => exact List.intercalate_singleton
  | @cut s a b ps hfirst hrest ih =>
    obtain ⟨p, ps, rfl⟩ := List.exists_cons_of_ne_nil hrest.ne_nil
    rw [List.intercalate_cons_cons, ih, hfirst.eq]

theorem not_isInfix (h : Divided m s ps) (hm : m ≠ []) : ∀ p ∈ ps, ¬m <:+: p := by
  induction h with
  | whole hnot => exact List.forall_mem_singleton.mpr hnot
  | cut hfirst _ ih => exact List.forall_mem_cons.mpr ⟨hfirst.not_isInfix hm, ih⟩

theorem isInfix_of_mem (h : Divided m s ps) : ∀ p ∈ ps, p <:+: s := by
  induction h with
  | whole _ => exact List.forall_mem_singleton.mpr (List.infix_refl _)
  | @cut s a b ps hfirst _ ih =>
    rw [hfirst.eq]
    refine List.forall_mem_cons.mpr ⟨⟨[], m ++ b, by simp⟩, fun p hp => ?_⟩
    exact (ih p hp).trans (List.suffix_append _ _).isInfix

theorem unique (h : Divided m s ps) (h' : Divided m s qs) : ps = qs := by
  induction h generalizing qs with
  | whole hnot =>
    cases h' with
    | whole _ => rfl
    | cut hfirst _ => exact absurd ⟨_, _, hfirst.eq.symm⟩ hnot
  | cut hfirst _ ih =>
    cases h' with
    | whole hnot => exact absurd ⟨_, _, hfirst.eq.symm⟩ hnot
    | cut hfirst' hrest' =>
      obtain ⟨rfl, rfl⟩ := hfirst.unique hfirst'
      rw [ih hrest']

end Divided

/-! ## Splitting -/

/-- What is left of the last separator is passed over. -/
theorem pieces_length_append (s : List Char) : ∀ skipped : List Char,
    pieces m skipped.length (skipped ++ s) = pieces m 0 s
  | [] => rfl
  | _ :: skipped => pieces_length_append s skipped

theorem pieces_eq (hm : m ≠ []) : ∀ s : List Char, pieces m 0 s =
    match cut? m s with
    | none => [s]
    | some (a, b) => a :: pieces m 0 b
  | [] => by
    have hnone : cut? m [] = none := if_neg (by simpa using hm)
    rw [hnone]
    rfl
  | c :: s => by
    rw [pieces, cut?]
    cases hafter : after? m (c :: s) with
    | some r =>
      -- the separator starts here, and all but its first character is passed over
      obtain ⟨d, m', rfl⟩ := List.exists_cons_of_ne_nil hm
      obtain ⟨rfl, rfl⟩ := List.cons.inj (after?_eq_some_iff.mp hafter)
      exact congrArg ([] :: ·) (pieces_length_append r m')
    | none =>
      rw [pieces_eq hm s]
      cases cut? m s <;> rfl

theorem divided_pieces (hm : m ≠ []) (s : List Char) : Divided m s (pieces m 0 s) := by
  rw [pieces_eq hm]
  cases hcut : cut? m s with
  | none => exact .whole (cut?_eq_none_iff.mp hcut)
  | some p =>
    have hfirst := firstAt_of_cut? hcut
    have hlt : p.2.length < s.length := by
      have hpos := List.length_pos_iff.mpr hm
      have hlen := congrArg List.length hfirst.eq
      simp only [List.length_append] at hlen
      omega
    exact .cut hfirst (divided_pieces hm p.2)
termination_by s.length

theorem divided_split (hm : m ≠ []) (s : List Char) : Divided m s (split m s) := by
  rw [split, if_neg (by simpa using hm)]
  exact divided_pieces hm s

theorem split_ne_nil (m s : List Char) : split m s ≠ [] := by
  by_cases hm : m = []
  · simp [split, hm]
  · exact (divided_split hm s).ne_nil

/-- The pieces with the separator between them are the text. -/
theorem intercalate_split (m s : List Char) : m.intercalate (split m s) = s := by
  by_cases hm : m = []
  · -- the empty separator leaves the characters one by one
    subst hm
    have hflatten : ∀ ps : List (List Char), [].intercalate ps = ps.flatten := by
      intro ps
      induction ps with
      | nil => rfl
      | cons p ps ih => cases ps <;> simp_all
    simp [split, hflatten, ← List.flatMap_def]
  · exact (divided_split hm s).intercalate_eq

theorem not_isInfix_of_mem_split (hm : m ≠ []) {p : List Char} (hp : p ∈ split m s) : ¬m <:+: p :=
  (divided_split hm s).not_isInfix hm p hp

theorem isInfix_of_mem_split (hm : m ≠ []) {p : List Char} (hp : p ∈ split m s) : p <:+: s :=
  (divided_split hm s).isInfix_of_mem p hp

/-! ## Separators of one character -/

variable {c : Char}

theorem firstAt_singleton (h : c ∉ a) (b : List Char) : FirstAt [c] (a ++ [c] ++ b) a b where
  eq := rfl
  first x y hxy := by
    by_contra hlt
    -- otherwise the character stands within `a`
    have hget := congrArg (·[x.length]?) hxy
    simp only [List.append_assoc, List.getElem?_append_left (Nat.not_le.mp hlt),
      List.getElem?_append_right (Nat.le_refl x.length), Nat.sub_self, List.cons_append,
      List.getElem?_cons_zero] at hget
    exact h (List.mem_of_getElem? hget)

theorem divided_intercalate (hne : ps ≠ []) (h : ∀ p ∈ ps, c ∉ p) :
    Divided [c] ([c].intercalate ps) ps := by
  induction ps with
  | nil => exact absurd rfl hne
  | cons p ps ih =>
    obtain ⟨hp, hps⟩ := List.forall_mem_cons.mp h
    cases ps with
    | nil =>
      rw [List.intercalate_singleton]
      exact .whole (by rwa [List.singleton_infix_iff])
    | cons q ps =>
      rw [List.intercalate_cons_cons]
      exact .cut (firstAt_singleton hp _) (ih (List.cons_ne_nil _ _) hps)

/-- Pieces without the separator are found again. -/
theorem split_intercalate (hne : ps ≠ []) (h : ∀ p ∈ ps, c ∉ p) :
    split [c] ([c].intercalate ps) = ps :=
  (divided_split (List.cons_ne_nil _ _) _).unique (divided_intercalate hne h)

/-! ## Marks in texts -/

section Marks

variable {mark s t : String} {pieces : List String}

/-- A mark occurs in a text. -/
def Occurs (mark text : String) : Prop :=
  mark.toList <:+: text.toList

instance : Decidable (Occurs mark t) :=
  inferInstanceAs (Decidable (_ <:+: _))

theorem occurs_iff : Occurs mark t ↔ ∃ before after : String, t = before ++ mark ++ after := by
  constructor
  · rintro ⟨before, after, h⟩
    exact ⟨.ofList before, .ofList after, by simp [← String.toList_inj, ← h]⟩
  · rintro ⟨before, after, rfl⟩
    exact ⟨before.toList, after.toList, by simp⟩

theorem Occurs.append_right (h : Occurs mark s) (t : String) : Occurs mark (s ++ t) := by
  obtain ⟨before, after, rfl⟩ := occurs_iff.mp h
  exact occurs_iff.mpr ⟨before, after ++ t, by simp only [String.append_assoc]⟩

theorem Occurs.append_left (h : Occurs mark s) (t : String) : Occurs mark (t ++ s) := by
  obtain ⟨before, after, rfl⟩ := occurs_iff.mp h
  exact occurs_iff.mpr ⟨t ++ before, after, by simp only [String.append_assoc]⟩

theorem Occurs.of_trimmed (h : Occurs mark (trimmed t)) : Occurs mark t := by
  rw [Occurs, toList_trimmed] at h
  exact h.trans (trim_isInfix _)

theorem exists_toList_eq (h : mark.length = 1) : ∃ c, mark.toList = [c] := by
  rwa [← String.length_toList, List.length_eq_one_iff] at h

theorem toList_ne_nil_of_length (h : mark.length = 1) : mark.toList ≠ [] := by
  obtain ⟨c, hc⟩ := exists_toList_eq h
  simp [hc]

theorem occurs_append (h : mark.length = 1) :
    Occurs mark (s ++ t) ↔ Occurs mark s ∨ Occurs mark t := by
  obtain ⟨c, hc⟩ := exists_toList_eq h
  simp only [Occurs, hc, List.singleton_infix_iff, String.toList_append, List.mem_append]

theorem not_occurs_of_ne (h : mark.length = 1) (ht : t.length = 1) (hne : mark ≠ t) :
    ¬Occurs mark t := by
  obtain ⟨c, hc⟩ := exists_toList_eq h
  obtain ⟨d, hd⟩ := exists_toList_eq ht
  rw [Occurs, hc, hd, List.singleton_infix_singleton_iff]
  rintro rfl
  exact hne (String.toList_inj.mp (hc.trans hd.symm))

/-- Marks that are single characters, no two of them the same. -/
structure SingleMarks (marks : List String) : Prop where
  single : ∀ mark ∈ marks, mark.length = 1
  distinct : marks.Nodup

instance {marks : List String} : Decidable (SingleMarks marks) :=
  decidable_of_iff ((∀ mark ∈ marks, mark.length = 1) ∧ marks.Nodup)
    ⟨fun ⟨hsingle, hdistinct⟩ => ⟨hsingle, hdistinct⟩, fun h => ⟨h.single, h.distinct⟩⟩

theorem firstAt_of_not_occurs (h : mark.length = 1) (hs : ¬Occurs mark s) (t : String) :
    FirstAt mark.toList (s ++ mark ++ t).toList s.toList t.toList := by
  obtain ⟨c, hc⟩ := exists_toList_eq h
  rw [Occurs, hc, List.singleton_infix_iff] at hs
  simpa [hc] using firstAt_singleton hs t.toList

/-- A mark that is in none of some pieces, nor in the separator, is not in what they make up. -/
theorem not_occurs_intercalate {separator : String} (h : mark.length = 1)
    (hseparator : ¬Occurs mark separator) (hpieces : ∀ p ∈ pieces, ¬Occurs mark p) :
    ¬Occurs mark (separator.intercalate pieces) := by
  induction pieces with
  | nil =>
    obtain ⟨c, hc⟩ := exists_toList_eq h
    simp [Occurs, hc]
  | cons p pieces ih =>
    obtain ⟨hp, hrest⟩ := List.forall_mem_cons.mp hpieces
    cases pieces with
    | nil => rwa [String.intercalate_singleton]
    | cons q pieces =>
      rw [String.intercalate_cons_cons, occurs_append h, occurs_append h]
      exact fun hmark => hmark.elim (fun hmark => hmark.elim hp hseparator) (ih hrest)

/-- Pieces that do not hold the separator are found again. -/
theorem split_toList_intercalate (h : mark.length = 1) (hne : pieces ≠ [])
    (hpieces : ∀ p ∈ pieces, ¬Occurs mark p) :
    split mark.toList (mark.intercalate pieces).toList = pieces.map String.toList := by
  obtain ⟨c, hc⟩ := exists_toList_eq h
  rw [String.toList_intercalate, hc]
  refine split_intercalate (by simpa using hne) fun p hp => ?_
  obtain ⟨piece, hmem, rfl⟩ := List.mem_map.mp hp
  rw [← List.singleton_infix_iff, ← hc]
  exact hpieces piece hmem

end Marks

end Dramaturgy.Text
