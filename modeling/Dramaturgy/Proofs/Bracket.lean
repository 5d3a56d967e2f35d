import Dramaturgy.Proofs.Blank
import Dramaturgy.Proofs.Split

/-!
# The first pair of brackets

What is looked for in a text is its first opening bracket and the first closing one after that
(`Vocabulary.FirstBrackets`). There is such a pair whenever there is any pair
(`Vocabulary.HasBrackets`), as whatever closes a later bracket stands behind the first one, too. So it
can be told of a text without looking for the first bracket that it is read as it is, and that is
passed on to every text within it.

Where brackets are single characters, a pair is the first one if there is no opening bracket before it
and no closing one in it (`firstBrackets_of_not_occurs`).
-/

namespace Dramaturgy

namespace Vocabulary

open Text

variable {v : Vocabulary} {text before inner after : String}

/-! ## Pairs of brackets -/

/-- Somewhere in a text a bracket is opened, and one is closed after it. -/
def HasBrackets (v : Vocabulary) (text : String) : Prop :=
  ∃ before inner after, text = before ++ v.tagsOpen ++ inner ++ v.tagsClose ++ after

/-- The first bracket that is opened in a text, and the first one that is closed after it. -/
structure FirstBrackets (v : Vocabulary) (text before inner after : String) : Prop where
  opened : FirstAt v.tagsOpen.toList text.toList before.toList
    (inner ++ v.tagsClose ++ after).toList
  closed : FirstAt v.tagsClose.toList (inner ++ v.tagsClose ++ after).toList inner.toList
    after.toList

namespace FirstBrackets

theorem eq (h : v.FirstBrackets text before inner after) :
    text = before ++ v.tagsOpen ++ inner ++ v.tagsClose ++ after := by
  rw [← String.toList_inj, h.opened.eq]
  simp

theorem bracketed_eq (h : v.FirstBrackets text before inner after) :
    v.bracketed text = .tagged before inner := by
  rw [bracketed, cut?_eq_some_iff.mpr h.opened]
  simp only [cut?_eq_some_iff.mpr h.closed, String.ofList_toList]

end FirstBrackets

/-- What a look for brackets finds. -/
theorem bracketed_cases (v : Vocabulary) (text : String) :
    (v.bracketed text = .plain text ∧ ¬Occurs v.tagsOpen text) ∨
    (v.bracketed text = .unclosed text ∧ v.Unclosed text) ∨
    ∃ before inner after, v.bracketed text = .tagged before inner ∧
      v.FirstBrackets text before inner after := by
  cases hopen : cut? v.tagsOpen.toList text.toList with
  | none => exact .inl ⟨by rw [bracketed, hopen], cut?_eq_none_iff.mp hopen⟩
  | some p =>
    have hopened := cut?_eq_some_iff.mp hopen
    cases hclose : cut? v.tagsClose.toList p.2 with
    | none =>
      have hunclosed : v.Unclosed text := ⟨p.1, p.2, hopened, cut?_eq_none_iff.mp hclose⟩
      exact .inr (.inl ⟨bracketed_eq_unclosed_iff.mpr ⟨rfl, hunclosed⟩, hunclosed⟩)
    | some q =>
      have hclosed := cut?_eq_some_iff.mp hclose
      have hrest : (String.ofList q.1 ++ v.tagsClose ++ String.ofList q.2).toList = p.2 := by
        simp [hclosed.eq]
      have hfirst : v.FirstBrackets text (.ofList p.1) (.ofList q.1) (.ofList q.2) := by
        refine ⟨?_, ?_⟩ <;> simpa only [hrest, String.toList_ofList]
      exact .inr (.inr ⟨_, _, _, hfirst.bracketed_eq, hfirst⟩)

/-- A text has no pair of brackets if none is opened, or if the first one is not closed. -/
theorem not_hasBrackets_iff :
    ¬v.HasBrackets text ↔ ¬Occurs v.tagsOpen text ∨ v.Unclosed text := by
  constructor
  · intro hnot
    rcases bracketed_cases v text with ⟨-, h⟩ | ⟨-, h⟩ | ⟨before, inner, after, -, h⟩
    · exact .inl h
    · exact .inr h
    · exact absurd ⟨before, inner, after, h.eq⟩ hnot
  · rintro hcases ⟨before, inner, after, rfl⟩
    have hsplit : (before ++ v.tagsOpen ++ inner ++ v.tagsClose ++ after).toList
        = before.toList ++ v.tagsOpen.toList ++ (inner ++ v.tagsClose ++ after).toList := by
      simp
    rcases hcases with hnot | ⟨front, rest, hfirst, hnot⟩
    · exact hnot ⟨_, _, hsplit.symm⟩
    · -- what closes this bracket follows the first one as well
      refine hnot (List.IsInfix.trans ?_ (hfirst.suffix hsplit).isInfix)
      exact ⟨inner.toList, after.toList, by simp⟩

/-- A text with a pair of brackets has a first one. -/
theorem HasBrackets.exists_first (h : v.HasBrackets text) :
    ∃ before inner after, v.FirstBrackets text before inner after := by
  rcases bracketed_cases v text with ⟨-, hnot⟩ | ⟨-, hunclosed⟩ | ⟨before, inner, after, -, hfirst⟩
  · exact absurd h (not_hasBrackets_iff.mpr (.inl hnot))
  · exact absurd h (not_hasBrackets_iff.mpr (.inr hunclosed))
  · exact ⟨before, inner, after, hfirst⟩

theorem bracketed_of_not_hasBrackets (h : ¬v.HasBrackets text) :
    v.bracketed text = .plain text ∨ v.bracketed text = .unclosed text := by
  rcases bracketed_cases v text with ⟨hform, -⟩ | ⟨hform, -⟩ | ⟨before, inner, after, -, hfirst⟩
  · exact .inl hform
  · exact .inr hform
  · exact absurd ⟨before, inner, after, hfirst.eq⟩ h

theorem HasBrackets.of_trimmed (h : v.HasBrackets (trimmed text)) : v.HasBrackets text := by
  obtain ⟨before, inner, after, heq⟩ := h
  obtain ⟨front, back, htext, -⟩ := exists_blanks text.toList
  refine ⟨.ofList front ++ before, inner, after ++ .ofList back, ?_⟩
  rw [← String.toList_inj, htext, ← toList_trimmed, heq]
  simp

/-- Text in front of the first bracket, if that is a single character, and in a pair of brackets. -/
theorem firstBrackets_of_not_occurs (hopen : v.tagsOpen.length = 1)
    (hclose : v.tagsClose.length = 1) (hbefore : ¬Occurs v.tagsOpen before)
    (hinner : ¬Occurs v.tagsClose inner) (after : String) :
    v.FirstBrackets (before ++ v.tagsOpen ++ inner ++ v.tagsClose ++ after) before inner after where
  opened := by
    simpa only [String.append_assoc] using
      firstAt_of_not_occurs hopen hbefore (inner ++ v.tagsClose ++ after)
  closed := firstAt_of_not_occurs hclose hinner after

end Vocabulary

end Dramaturgy
