import Dramaturgy.Text.Blank
import Mathlib.Data.List.DropRight
import Mathlib.Data.List.Infix

/-!
# Trimmed text

A text is trimmed if no blank stands at either end of it. `trim_eq_iff` says what trimming gives: the
trimmed text of which the whole one consists but for blanks around it. There is just one such text,
so that nothing else has to be known of how the blanks are dropped.
-/

namespace Dramaturgy.Text

/-- No blank stands at either end of a text. -/
structure IsTrimmed (s : List Char) : Prop where
  start : ∀ c ∈ s.head?, isBlank c = false
  stop : ∀ c ∈ s.getLast?, isBlank c = false

variable {s t before after : List Char}

theorem isTrimmed_nil : IsTrimmed [] where
  start _ hc := by cases hc
  stop _ hc := by cases hc

/-! ## What trimming gives -/

/-- Blanks are dropped at the end as the library does it, only from the left. -/
theorem trimEnd_eq_rdropWhile : ∀ s : List Char, trimEnd s = s.rdropWhile isBlank
  | [] => rfl
  | c :: s => by
    rw [trimEnd, trimEnd_eq_rdropWhile s, List.rdropWhile, List.rdropWhile, List.reverse_cons,
      List.dropWhile_append]
    cases hrest : s.reverse.dropWhile isBlank with
    | nil => cases hc : isBlank c <;> simp [hc]
    | cons d rest =>
      cases hlast : (d :: rest).reverse with
      | nil => simp at hlast
      | cons e t => simpa using hlast.symm

theorem trimEnd_append (hblank : ∀ c ∈ after, isBlank c) : trimEnd (s ++ after) = trimEnd s := by
  rw [trimEnd_eq_rdropWhile, trimEnd_eq_rdropWhile, List.rdropWhile, List.rdropWhile,
    List.reverse_append, List.dropWhile_append_of_pos fun c hc => hblank c (List.mem_reverse.mp hc)]

theorem trimStart_append (hblank : ∀ c ∈ before, isBlank c) :
    trimStart (before ++ s) = trimStart s :=
  List.dropWhile_append_of_pos hblank

/-- A text without a blank in front stays as it is at the start, whatever comes after it. -/
theorem trimStart_eq_self (h : ∀ c ∈ s.head?, isBlank c = false) : trimStart s = s := by
  cases s with
  | nil => rfl
  | cons c s => exact List.dropWhile_cons_of_neg (by simp [h c rfl])

theorem trimEnd_eq_self (h : ∀ c ∈ s.getLast?, isBlank c = false) : trimEnd s = s := by
  rw [trimEnd_eq_rdropWhile, List.rdropWhile_eq_self_iff]
  intro hne
  simp [h _ (List.getLast?_eq_some_getLast hne)]

theorem head?_trimStart (s : List Char) : ∀ c ∈ (trimStart s).head?, isBlank c = false := by
  intro c hc
  have hhead := List.head?_dropWhile_not isBlank s
  rwa [show (s.dropWhile isBlank).head? = some c from hc] at hhead

theorem getLast?_trimEnd (s : List Char) : ∀ c ∈ (trimEnd s).getLast?, isBlank c = false := by
  intro c hc
  rw [trimEnd_eq_rdropWhile] at hc
  obtain ⟨hne, rfl⟩ := List.mem_getLast?_eq_getLast hc
  simpa using List.rdropWhile_last_not isBlank s hne

/-- What is trimmed is the text but for blanks around it. -/
theorem exists_blanks (s : List Char) : ∃ before after, s = before ++ trim s ++ after ∧
    (∀ c ∈ before, isBlank c) ∧ ∀ c ∈ after, isBlank c := by
  refine ⟨s.takeWhile isBlank, (trimStart s).rtakeWhile isBlank, ?_,
    fun c => List.mem_takeWhile_imp, fun c => List.mem_rtakeWhile_imp⟩
  rw [trim, trimEnd_eq_rdropWhile, List.append_assoc, List.rdropWhile_append_rtakeWhile, trimStart,
    List.takeWhile_append_dropWhile]

theorem isTrimmed_trim (s : List Char) : IsTrimmed (trim s) where
  start c hc := by
    -- the first character that is left was first before the end was dropped
    refine head?_trimStart s c ?_
    have hpre : trim s <+: trimStart s := by
      rw [trim, trimEnd_eq_rdropWhile]
      exact List.rdropWhile_prefix isBlank _
    obtain ⟨rest, hrest⟩ := hpre
    rw [← hrest, List.head?_append, hc]
    rfl
  stop := getLast?_trimEnd (trimStart s)

/-- **What trimming gives.** -/
theorem trim_eq_iff : trim s = t ↔ IsTrimmed t ∧ ∃ before after, s = before ++ t ++ after ∧
    (∀ c ∈ before, isBlank c) ∧ ∀ c ∈ after, isBlank c := by
  constructor
  · rintro rfl
    exact ⟨isTrimmed_trim s, exists_blanks s⟩
  · rintro ⟨ht, before, after, rfl, hbefore, hafter⟩
    rw [trim, List.append_assoc, trimStart_append hbefore]
    cases t with
    | nil =>
      -- there are only blanks
      have hnil : trimStart ([] ++ after) = [] := List.dropWhile_eq_nil_iff.mpr hafter
      rw [hnil]
      rfl
    | cons c t =>
      have hstart : trimStart (c :: t ++ after) = c :: t ++ after :=
        trimStart_eq_self fun d hd => ht.start d hd
      rw [hstart, trimEnd_append hafter, trimEnd_eq_self ht.stop]

/-! ## Consequences -/

theorem IsTrimmed.trim_eq (h : IsTrimmed s) : trim s = s :=
  trim_eq_iff.mpr ⟨h, [], [], by simp, nofun, nofun⟩

theorem isTrimmed_iff : IsTrimmed s ↔ trim s = s :=
  ⟨IsTrimmed.trim_eq, fun h => h ▸ isTrimmed_trim s⟩

instance : Decidable (IsTrimmed s) :=
  decidable_of_iff _ isTrimmed_iff.symm

theorem trim_isInfix (s : List Char) : trim s <:+: s := by
  obtain ⟨before, after, hs, -⟩ := exists_blanks s
  exact ⟨before, after, hs.symm⟩

/-- Two characters that are not blank keep whatever stands between them. -/
theorem isTrimmed_between {a b : List Char} {c d : Char} (hc : isBlank c = false)
    (hd : isBlank d = false) (ha : ∀ x ∈ a.head?, isBlank x = false)
    (hb : ∀ x ∈ b.getLast?, isBlank x = false) (s : List Char) :
    IsTrimmed (a ++ [c] ++ s ++ [d] ++ b) where
  start x hx := by
    cases a with
    | nil =>
      obtain rfl : c = x := by simpa using hx
      exact hc
    | cons y a => exact ha x hx
  stop x hx := by
    rw [List.getLast?_append, List.getLast?_concat] at hx
    cases hlast : b.getLast? with
    | none =>
      obtain rfl : d = x := by simpa [hlast] using hx
      exact hd
    | some y =>
      obtain rfl : y = x := by simpa [hlast] using hx
      exact hb y hlast

@[simp] theorem toList_trimmed (s : String) : (trimmed s).toList = trim s.toList :=
  String.toList_ofList

theorem isTrimmed_trimmed (s : String) : IsTrimmed (trimmed s).toList := by
  rw [toList_trimmed]
  exact isTrimmed_trim _

theorem trimmed_eq_self {s : String} (h : IsTrimmed s.toList) : trimmed s = s := by
  rw [← String.toList_inj, toList_trimmed, h.trim_eq]

end Dramaturgy.Text
