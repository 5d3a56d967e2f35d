import Dramaturgy.Proofs.Bracket
import Mathlib.Data.List.Forall2

/-!
# The grammar of a line

How a line of a speech is made up, whatever the marks are, and that it is read accordingly. A line is
dialogue if it starts with an address. The address is as short as it can be (`Vocabulary.Addresses`),
it is made up of tokens (`Vocabulary.MadeUpOf`), and each of these tells of one addressee
(`Vocabulary.TellsOf`). Nothing of the line is lost, but for a tail after the tag of a token and for
blanks around names and tags. All other lines are directions, and only brackets around the whole line
are taken off (`Line.ofText_grammar`).
-/

namespace Dramaturgy

open Text

namespace Vocabulary

/-- A line starts with an address, which is as short as it can be, and then comes a text. -/
structure Addresses (v : Vocabulary) (line address text : String) : Prop where
  eq : line = v.addressOpen ++ address ++ v.addressClose ++ text
  shortest : ∀ address' text', line = v.addressOpen ++ address' ++ v.addressClose ++ text' →
    address.length ≤ address'.length

/-- The tokens of an address have separators between them and none in them, unless the separator is
empty. -/
structure MadeUpOf (v : Vocabulary) (address : String) (tokens : List String) : Prop where
  ne_nil : tokens ≠ []
  joined : v.separator.intercalate tokens = address
  free : v.separator ≠ "" → ∀ token ∈ tokens, ¬Occurs v.separator token

/-- A token tells of an addressee: of the name alone if there is no pair of brackets, and otherwise of
what stands before the first pair and in it. -/
inductive TellsOf (v : Vocabulary) (token : String) : Addressee → Prop where
  | name : ¬Occurs v.tagsOpen token ∨ v.Unclosed token →
    TellsOf v token { name := trimmed token, tag := none }
  | tagged {name tag tail : String} : v.FirstBrackets token name tag tail →
    TellsOf v token { name := trimmed name, tag := some (trimmed tag) }

variable {v : Vocabulary} {line address text token : String}

/-! ## Reading an address -/

theorem Addresses.firstAt (h : v.Addresses line address text) :
    FirstAt v.addressClose.toList (address ++ v.addressClose ++ text).toList address.toList
      text.toList where
  eq := by simp
  first a b hab := by
    have hline : line = v.addressOpen ++ .ofList a ++ v.addressClose ++ .ofList b := by
      rw [h.eq, ← String.toList_inj]
      simpa using hab
    rw [String.length_toList, ← String.length_ofList]
    exact h.shortest _ _ hline

theorem addresses_of_firstAt {rest : String} {a b : List Char}
    (h : FirstAt v.addressClose.toList rest.toList a b) :
    v.Addresses (v.addressOpen ++ rest) (.ofList a) (.ofList b) where
  eq := by simp [← String.toList_inj, h.eq]
  shortest address' text' heq := by
    have hrest : rest.toList = address'.toList ++ v.addressClose.toList ++ text'.toList := by
      simpa [← String.toList_inj] using heq
    rw [String.length_ofList, ← String.length_toList]
    exact h.first _ _ hrest

/-- A line with an address is read as dialogue. -/
theorem Addresses.ofText_eq (h : v.Addresses line address text) :
    Line.ofText v line = .dialogue
      { addressees := (split v.separator.toList address.toList).map fun token =>
          .ofToken v (.ofList token)
        text } := by
  have hline : line = v.addressOpen ++ (address ++ v.addressClose ++ text) := by
    rw [h.eq]
    simp only [String.append_assoc]
  rw [Line.ofText, lineForm_of_opens hline, cut?_eq_some_iff.mpr h.firstAt]
  simp

/-- A line has an address, or its address is never closed, or it does not start with one. -/
theorem ofText_cases (v : Vocabulary) (line : String) :
    (∃ address text, v.Addresses line address text) ∨
    (v.UnclosedAddress line ∧ Line.ofText v line = .direction line) ∨
    ¬v.OpensAddress line ∧ Line.ofText v line = .direction (v.directionText line) := by
  rcases opens_cases v line with ⟨rest, rfl⟩ | ⟨hnot, hform⟩
  · cases hcut : cut? v.addressClose.toList rest.toList with
    | some p => exact .inl ⟨_, _, addresses_of_firstAt (cut?_eq_some_iff.mp hcut)⟩
    | none =>
      have hunclosed : v.UnclosedAddress (v.addressOpen ++ rest) :=
        ⟨rest, rfl, cut?_eq_none_iff.mp hcut⟩
      exact .inr (.inl ⟨hunclosed, by rw [Line.ofText, unclosedAddress_iff.mp hunclosed]⟩)
  · exact .inr (.inr ⟨hnot, by rw [Line.ofText, hform]⟩)

/-- An address that is never closed leaves no way to read an address. -/
theorem UnclosedAddress.ne (h : v.UnclosedAddress line) (address text : String) :
    line ≠ v.addressOpen ++ address ++ v.addressClose ++ text := by
  obtain ⟨rest, rfl, hnot⟩ := h
  intro heq
  have hrest : rest.toList = address.toList ++ v.addressClose.toList ++ text.toList := by
    simpa [← String.toList_inj] using heq
  exact hnot ⟨_, _, hrest.symm⟩

/-! ## Reading the tokens -/

theorem madeUpOf_split (v : Vocabulary) (address : String) :
    v.MadeUpOf address ((split v.separator.toList address.toList).map String.ofList) where
  ne_nil := by simpa using split_ne_nil _ _
  joined := by
    rw [← String.toList_inj, String.toList_intercalate, List.map_map]
    simpa [Function.comp_def] using intercalate_split v.separator.toList address.toList
  free hne token htoken := by
    obtain ⟨piece, hpiece, rfl⟩ := List.mem_map.mp htoken
    rw [Occurs, String.toList_ofList]
    exact not_isInfix_of_mem_split (by simpa using hne) hpiece

theorem ofToken_of_not_hasBrackets (h : ¬v.HasBrackets token) :
    Addressee.ofToken v token = { name := trimmed token, tag := none } := by
  rcases bracketed_of_not_hasBrackets h with hform | hform <;> rw [Addressee.ofToken, hform]

theorem ofToken_of_firstBrackets {name tag tail : String}
    (h : v.FirstBrackets token name tag tail) :
    Addressee.ofToken v token = { name := trimmed name, tag := some (trimmed tag) } := by
  rw [Addressee.ofToken, h.bracketed_eq]

theorem tellsOf_ofToken (v : Vocabulary) (token : String) : v.TellsOf token (.ofToken v token) := by
  by_cases h : v.HasBrackets token
  · obtain ⟨name, tag, tail, hfirst⟩ := h.exists_first
    rw [ofToken_of_firstBrackets hfirst]
    exact .tagged hfirst
  · rw [ofToken_of_not_hasBrackets h]
    exact .name (not_hasBrackets_iff.mp h)

end Vocabulary

open Vocabulary

/-- **The grammar of a line.** It is dialogue if and only if an address starts it, and then the text is
what follows the shortest one, and each token of that tells of one addressee. Otherwise it is a
direction: what the brackets around the line enclose if it does not open an address, and the line as
it is in all other cases. -/
theorem Line.ofText_grammar (v : Vocabulary) (line : String) :
    ((∃ d, ofText v line = .dialogue d) ↔
      ∃ address text, line = v.addressOpen ++ address ++ v.addressClose ++ text) ∧
    (∀ d, ofText v line = .dialogue d → ∃ address tokens, v.Addresses line address d.text ∧
      v.MadeUpOf address tokens ∧ List.Forall₂ v.TellsOf tokens d.addressees) ∧
    ∀ text, ofText v line = .direction text →
      (∀ inner, ¬v.OpensAddress line → line = v.tagsOpen ++ inner ++ v.tagsClose → text = inner) ∧
      (v.OpensAddress line ∨ ¬v.Encloses line → text = line) := by
  rcases ofText_cases v line with ⟨address, text, h⟩ | ⟨hunclosed, hread⟩ | ⟨hnot, hread⟩
  · rw [h.ofText_eq]
    refine ⟨iff_of_true ⟨_, rfl⟩ ⟨_, _, h.eq⟩, ?_, nofun⟩
    rintro d ⟨⟩
    refine ⟨address, _, h, v.madeUpOf_split address, ?_⟩
    rw [List.forall₂_map_left_iff, List.forall₂_map_right_iff]
    exact List.forall₂_same.mpr fun token _ => v.tellsOf_ofToken _
  · rw [hread]
    refine ⟨iff_of_false nofun fun ⟨_, _, heq⟩ => hunclosed.ne _ _ heq, nofun, ?_⟩
    rintro text ⟨⟩
    obtain ⟨rest, hopens, -⟩ := hunclosed
    exact ⟨fun inner hnot _ => absurd ⟨rest, hopens⟩ hnot, fun _ => rfl⟩
  · rw [hread]
    refine ⟨iff_of_false nofun fun ⟨address, text, heq⟩ => ?_, nofun, ?_⟩
    · exact hnot ⟨address ++ v.addressClose ++ text, by simpa only [String.append_assoc] using heq⟩
    · rintro text ⟨⟩
      refine ⟨fun inner _ heq => ?_, fun hplain => ?_⟩
      · rw [directionText, enclosed?_eq_some_iff.mpr heq, Option.getD_some]
      · rw [directionText, enclosed?_eq_none_iff.mpr (hplain.resolve_left hnot), Option.getD_none]

/-- An empty separator stands at the ends of an address, too. -/
example : Line.ofText { separator := "" } "(To ab)" = .dialogue
    { addressees := [{ name := "" }, { name := "a" }, { name := "b" }, { name := "" }]
      text := "" } := rfl

end Dramaturgy
