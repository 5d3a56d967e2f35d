import Dramaturgy.Proofs.Bracket
import Dramaturgy.Proofs.Performance

/-!
# Roster values that are written and read

The value of a roster entry is a description and a list of tags in brackets after it. Such a value can
be written for every description without an opening bracket and for all tags that a list can hold
(`Vocabulary.IsTag`), and it is read as it was meant. What comes of reading a value is of that kind
again but for one case: a description holds an opening bracket if the value had one that was never
closed. That is read again like the first time (`Character.ofEntry_writtenValue`).
-/

namespace Dramaturgy

open Text

/-- A tag that a list in brackets can hold. -/
structure Vocabulary.IsTag (v : Vocabulary) (tag : String) : Prop where
  ne_empty : tag ≠ ""
  trimmed : IsTrimmed tag.toList
  free : ∀ mark ∈ [v.separator, v.tagsClose], ¬Occurs mark tag

instance {v : Vocabulary} {tag : String} : Decidable (v.IsTag tag) :=
  decidable_of_iff
    (tag ≠ "" ∧ IsTrimmed tag.toList ∧ ∀ mark ∈ [v.separator, v.tagsClose], ¬Occurs mark tag)
    ⟨fun ⟨hne, htrimmed, hfree⟩ => ⟨hne, htrimmed, hfree⟩, fun h => ⟨h.ne_empty, h.trimmed, h.free⟩⟩

/-- The value of a roster entry with a description and tags. -/
def Vocabulary.writtenValue (v : Vocabulary) (description : String) (tags : List String) : String :=
  if tags.isEmpty then description
  else description ++ v.tagsOpen ++ v.separator.intercalate tags ++ v.tagsClose

/-! ## Lists of tags -/

namespace Vocabulary

variable {v : Vocabulary} {tags : List String} {tag inner value : String}

theorem tagList_intercalate (hseparator : v.separator.length = 1) (hne : tags ≠ [])
    (htags : ∀ tag ∈ tags, v.IsTag tag) : v.tagList (v.separator.intercalate tags) = tags := by
  have hpieces : split v.separator.toList (v.separator.intercalate tags).toList
      = tags.map String.toList :=
    split_toList_intercalate hseparator hne fun tag htag => (htags tag htag).free _ (by simp)
  have htrimmed : (tags.map String.toList).map trim = tags.map String.toList := by
    rw [List.map_map]
    exact List.map_congr_left fun tag htag => (htags tag htag).trimmed.trim_eq
  have hfilter : (tags.map String.toList).filter (!·.isEmpty) = tags.map String.toList := by
    refine List.filter_eq_self.mpr fun s hs => ?_
    obtain ⟨tag, htag, rfl⟩ := List.mem_map.mp hs
    simpa using (htags tag htag).ne_empty
  rw [tagList, hpieces, htrimmed, hfilter]
  simp

theorem isTag_of_mem_tagList (hseparator : v.separator.length = 1)
    (hinner : ¬Occurs v.tagsClose inner) (h : tag ∈ v.tagList inner) : v.IsTag tag := by
  have hne := toList_ne_nil_of_length hseparator
  simp only [tagList, List.mem_map, List.mem_filter] at h
  obtain ⟨_, ⟨⟨piece, hpiece, rfl⟩, hnonempty⟩, rfl⟩ := h
  refine ⟨by simpa using hnonempty, by simpa using isTrimmed_trim piece, fun mark hmark => ?_⟩
  rw [Occurs, String.toList_ofList]
  intro hoccurs
  -- a tag is part of a piece, and that of the text in the brackets
  have hpart := hoccurs.trans (trim_isInfix piece)
  rcases List.mem_pair.mp hmark with rfl | rfl
  · exact not_isInfix_of_mem_split hne hpiece hpart
  · exact hinner (hpart.trans (isInfix_of_mem_split hne hpiece))

/-! ## Blanks around a value -/

/-- Brackets are not blank, so that a pair of them is still there when blanks are dropped. -/
theorem HasBrackets.trimmed (hopen : v.tagsOpen.length = 1) (hclose : v.tagsClose.length = 1)
    (hblank : ∀ mark ∈ [v.tagsOpen, v.tagsClose], ∀ c ∈ mark.toList, isBlank c = false)
    (h : v.HasBrackets value) : v.HasBrackets (Text.trimmed value) := by
  obtain ⟨before, inner, after, rfl⟩ := h
  obtain ⟨c, hc⟩ := exists_toList_eq hopen
  obtain ⟨d, hd⟩ := exists_toList_eq hclose
  refine ⟨.ofList (trimStart before.toList), inner, .ofList (trimEnd after.toList), ?_⟩
  rw [← String.toList_inj, toList_trimmed, trim_eq_iff]
  constructor
  · have hbetween := isTrimmed_between (hblank v.tagsOpen (by simp) c (by simp [hc]))
      (hblank v.tagsClose (by simp) d (by simp [hd])) (head?_trimStart before.toList)
      (getLast?_trimEnd after.toList) inner.toList
    simpa [hc, hd] using hbetween
  · refine ⟨before.toList.takeWhile isBlank, after.toList.rtakeWhile isBlank, ?_,
      fun c => List.mem_takeWhile_imp, fun c => List.mem_rtakeWhile_imp⟩
    have hbefore : before.toList.takeWhile isBlank ++ trimStart before.toList = before.toList :=
      List.takeWhile_append_dropWhile
    have hafter : trimEnd after.toList ++ after.toList.rtakeWhile isBlank = after.toList := by
      rw [trimEnd_eq_rdropWhile]
      exact List.rdropWhile_append_rtakeWhile
    conv_lhs => rw [String.toList_append, ← hafter, String.toList_append, String.toList_append,
      String.toList_append, ← hbefore]
    simp

theorem Unclosed.of_trimmed (hopen : v.tagsOpen.length = 1) (hclose : v.tagsClose.length = 1)
    (hblank : ∀ mark ∈ [v.tagsOpen, v.tagsClose], ∀ c ∈ mark.toList, isBlank c = false)
    (h : v.Unclosed (Text.trimmed value)) : v.Unclosed value := by
  have hnot : ¬v.HasBrackets value := fun hbrackets =>
    not_hasBrackets_iff.mpr (.inr h) (hbrackets.trimmed hopen hclose hblank)
  obtain ⟨before, rest, hfirst, -⟩ := h
  have hoccurs : Occurs v.tagsOpen (Text.trimmed value) := ⟨_, _, hfirst.eq.symm⟩
  exact (not_hasBrackets_iff.mp hnot).resolve_left (not_not_intro hoccurs.of_trimmed)

end Vocabulary

/-! ## Characters -/

namespace Character

open Vocabulary

/-- A description and tags as reading a value gives them. -/
structure Settled (v : Vocabulary) (c : Character) : Prop where
  trimmed : IsTrimmed c.description.toList
  isTag : ∀ tag ∈ c.tags, v.IsTag tag
  untagged : c.tags = [] → ¬v.HasBrackets c.description
  tagged : c.tags ≠ [] → ¬Occurs v.tagsOpen c.description

variable {v : Vocabulary} {c : Character} {value before inner after : String}

theorem ofEntry_of_not_hasBrackets (name : String) (h : ¬v.HasBrackets (Text.trimmed value)) :
    ofEntry v name value = { name, description := Text.trimmed value, tags := [] } := by
  rcases bracketed_of_not_hasBrackets h with hform | hform <;> rw [ofEntry, hform]

theorem ofEntry_of_firstBrackets (name : String)
    (h : v.FirstBrackets (Text.trimmed value) before inner after) : ofEntry v name value
      = { name, description := Text.trimmed before, tags := v.tagList inner } := by
  rw [ofEntry, h.bracketed_eq]

/-- What reading a value gives. The description is all of the value if the first bracket in it is
never closed, and without an opening bracket if there are tags. -/
theorem settled_ofEntry (hopen : v.tagsOpen.length = 1) (hclose : v.tagsClose.length = 1)
    (hseparator : v.separator.length = 1) (name value : String) :
    (ofEntry v name value).Settled v ∧
      (Occurs v.tagsOpen (ofEntry v name value).description → v.Unclosed (Text.trimmed value) ∧
        ofEntry v name value = { name, description := Text.trimmed value, tags := [] }) := by
  by_cases hbrackets : v.HasBrackets (Text.trimmed value)
  · obtain ⟨before, inner, after, hfirst⟩ := hbrackets.exists_first
    rw [ofEntry_of_firstBrackets name hfirst]
    have hbefore : ¬Occurs v.tagsOpen (Text.trimmed before) := fun h =>
      hfirst.opened.not_isInfix (toList_ne_nil_of_length hopen) h.of_trimmed
    have hinner : ¬Occurs v.tagsClose inner :=
      hfirst.closed.not_isInfix (toList_ne_nil_of_length hclose)
    exact ⟨⟨isTrimmed_trimmed _, fun tag => isTag_of_mem_tagList hseparator hinner,
      fun _ => not_hasBrackets_iff.mpr (.inl hbefore), fun _ => hbefore⟩,
      fun h => absurd h hbefore⟩
  · rw [ofEntry_of_not_hasBrackets name hbrackets]
    refine ⟨⟨isTrimmed_trimmed _, nofun, fun _ => hbrackets, fun hne => absurd rfl hne⟩, fun h => ?_⟩
    exact ⟨(not_hasBrackets_iff.mp hbrackets).resolve_left (not_not_intro h), rfl⟩

/-- The value of a character is read as that character. -/
theorem Settled.ofEntry_written (h : c.Settled v)
    (hmarks : SingleMarks [v.tagsOpen, v.tagsClose, v.separator])
    (hblank : ∀ mark ∈ [v.tagsOpen, v.tagsClose], ∀ c ∈ mark.toList, isBlank c = false) :
    ofEntry v c.name (v.writtenValue c.description c.tags) = c := by
  have hopen := hmarks.single v.tagsOpen (by simp)
  have hclose := hmarks.single v.tagsClose (by simp)
  have hseparator := hmarks.single v.separator (by simp)
  obtain ⟨name, description, tags⟩ := c
  have hdescription : Text.trimmed description = description := trimmed_eq_self h.trimmed
  by_cases htags : tags = []
  · subst htags
    have hnot : ¬v.HasBrackets (Text.trimmed description) := by
      rw [hdescription]
      exact h.untagged rfl
    have hread := ofEntry_of_not_hasBrackets name hnot
    rwa [hdescription] at hread
  · have hne : v.tagsClose ≠ v.separator := by
      have hdistinct := hmarks.distinct
      simp only [List.nodup_cons, List.mem_singleton] at hdistinct
      exact hdistinct.2.1
    have hlist : ¬Occurs v.tagsClose (v.separator.intercalate tags) :=
      not_occurs_intercalate hclose (not_occurs_of_ne hclose hseparator hne)
        fun tag htag => (h.isTag tag htag).free _ (by simp)
    have hfirst := firstBrackets_of_not_occurs hopen hclose (h.tagged htags) hlist ""
    rw [String.append_empty] at hfirst
    -- the value neither begins nor ends in a blank
    have hvalue : IsTrimmed (description ++ v.tagsOpen ++ v.separator.intercalate tags
        ++ v.tagsClose).toList := by
      obtain ⟨c, hc⟩ := exists_toList_eq hopen
      obtain ⟨d, hd⟩ := exists_toList_eq hclose
      have hbetween := isTrimmed_between (hblank v.tagsOpen (by simp) c (by simp [hc]))
        (hblank v.tagsClose (by simp) d (by simp [hd])) h.trimmed.start isTrimmed_nil.stop
        (v.separator.intercalate tags).toList
      simpa [hc, hd] using hbetween
    rw [← trimmed_eq_self hvalue] at hfirst
    have hread := ofEntry_of_firstBrackets name hfirst
    rw [hdescription, tagList_intercalate hseparator htags h.isTag] at hread
    rwa [writtenValue, if_neg (by simpa using htags)]

/-- **A roster value is read as it is written**, if brackets and separator are single characters and
no blanks. Whatever value is read, it gives a trimmed description and tags that a list can hold, and
written once more it is read as before. -/
theorem ofEntry_writtenValue (hmarks : SingleMarks [v.tagsOpen, v.tagsClose, v.separator])
    (hblank : ∀ mark ∈ [v.tagsOpen, v.tagsClose, v.separator], ∀ c ∈ mark.toList,
      isBlank c = false) :
    (∀ name description tags, IsTrimmed description.toList → ¬Occurs v.tagsOpen description →
      (∀ tag ∈ tags, v.IsTag tag) →
      ofEntry v name (v.writtenValue description tags) = { name, description, tags }) ∧
    ∀ name value c, ofEntry v name value = c →
      IsTrimmed c.description.toList ∧ (∀ tag ∈ c.tags, v.IsTag tag) ∧
      (Occurs v.tagsOpen c.description →
        v.Unclosed value ∧ c.description = Text.trimmed value ∧ c.tags = []) ∧
      ofEntry v name (v.writtenValue c.description c.tags) = c := by
  have hopen := hmarks.single v.tagsOpen (by simp)
  have hclose := hmarks.single v.tagsClose (by simp)
  have hseparator := hmarks.single v.separator (by simp)
  have hbrackets : ∀ mark ∈ [v.tagsOpen, v.tagsClose], ∀ c ∈ mark.toList, isBlank c = false :=
    fun mark hmark => hblank mark (List.mem_append_left [v.separator] hmark)
  constructor
  · intro name description tags htrimmed hnot htags
    have hsettled : Settled v { name, description, tags } :=
      ⟨htrimmed, htags, fun _ => not_hasBrackets_iff.mpr (.inl hnot), fun _ => hnot⟩
    exact hsettled.ofEntry_written hmarks hbrackets
  · rintro name value c rfl
    obtain ⟨hsettled, hopened⟩ := settled_ofEntry hopen hclose hseparator name value
    refine ⟨hsettled.trimmed, hsettled.isTag, fun h => ?_, ?_⟩
    · obtain ⟨hunclosed, hread⟩ := hopened h
      rw [hread]
      exact ⟨hunclosed.of_trimmed hopen hclose hbrackets, rfl, rfl⟩
    · have hwritten := hsettled.ofEntry_written hmarks hbrackets
      rwa [Roster.name_ofEntry] at hwritten

theorem ofEntry_writtenValue_spy :
    SingleMarks ["[", "]", ","] ∧
    (∀ mark ∈ ["[", "]", ","], ∀ c ∈ mark.toList, isBlank c = false) ∧
    (∀ tag ∈ ["Agent", "a [sort of user"], ({} : Vocabulary).IsTag tag) ∧
    ofEntry {} "Mata" (({} : Vocabulary).writtenValue "A spy." ["Agent", "a [sort of user"])
      = { name := "Mata", description := "A spy.", tags := ["Agent", "a [sort of user"] } ∧
    (∃ c, ofEntry {} "Mata" " A spy. [ Agent,, User ] of course" = c ∧
      ({} : Vocabulary).writtenValue c.description c.tags = "A spy.[Agent,User]" ∧
      ofEntry {} "Mata" (({} : Vocabulary).writtenValue c.description c.tags) = c) ∧
    ∃ c, ofEntry {} "Mata" "A spy. [Agent, User " = c ∧ Occurs "[" c.description ∧
      ({} : Vocabulary).Unclosed "A spy. [Agent, User " ∧ c.tags = [] := by
  have hmarks : SingleMarks ["[", "]", ","] := by decide +kernel
  have hblank : ∀ mark ∈ ["[", "]", ","], ∀ c ∈ mark.toList, isBlank c = false := by
    simp [isBlank]
  have htags : ∀ tag ∈ ["Agent", "a [sort of user"], ({} : Vocabulary).IsTag tag := by
    decide +kernel
  obtain ⟨hwritten, hread⟩ := ofEntry_writtenValue (v := {}) hmarks hblank
  have hclosed : ofEntry {} "Mata" " A spy. [ Agent,, User ] of course" = _ := rfl
  have hopened : ofEntry {} "Mata" "A spy. [Agent, User " = _ := rfl
  have hbracket : Occurs "[" (ofEntry {} "Mata" "A spy. [Agent, User ").description := by
    decide +kernel
  obtain ⟨-, -, -, hagain⟩ := hread _ _ _ hclosed
  obtain ⟨-, -, hunclosed, -⟩ := hread _ _ _ hopened
  obtain ⟨hvalue, -, hnone⟩ := hunclosed hbracket
  refine ⟨hmarks, hblank, htags, ?_, ⟨_, hclosed, by decide +kernel, hagain⟩,
    ⟨_, hopened, hbracket, hvalue, hnone⟩⟩
  exact hwritten "Mata" "A spy." _ (by decide +kernel) (by decide +kernel) htags

end Character

end Dramaturgy
