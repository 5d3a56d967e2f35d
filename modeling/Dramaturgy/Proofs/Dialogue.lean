import Dramaturgy.Proofs.Line

/-!
# Dialogue that is written and read

A line of dialogue can be written so that it is read as it was meant, if the marks in an address are
single characters and the names and tags leave out those that would end them (`Addressee.Plain`). What
comes of reading a line need not be like that: a name may hold an opening bracket that nothing closed.
It is `Addressee.Settled` all the same, and that is enough, so that a line may change when it is read
and written, but no more after that (`Line.ofText_written`).
-/

namespace Dramaturgy

open Text Vocabulary

/-! ## Writing -/

/-- The token of an addressee. -/
def Addressee.written (v : Vocabulary) (a : Addressee) : String :=
  match a.tag with
  | none => a.name
  | some tag => a.name ++ v.tagsOpen ++ tag ++ v.tagsClose

/-- The address of some addressees, without the marks that open and close it. -/
def Vocabulary.writtenAddress (v : Vocabulary) (addressees : List Addressee) : String :=
  v.separator.intercalate (addressees.map (·.written v))

/-- The line of a dialogue. -/
def Dialogue.written (v : Vocabulary) (d : Dialogue) : String :=
  v.addressOpen ++ v.writtenAddress d.addressees ++ v.addressClose ++ d.text

namespace Addressee

/-- The name and the tag are trimmed and without the marks that would end them. -/
structure Plain (v : Vocabulary) (a : Addressee) : Prop where
  name_trimmed : IsTrimmed a.name.toList
  name_free : ∀ mark ∈ [v.separator, v.addressClose, v.tagsOpen], ¬Occurs mark a.name
  tag_trimmed : ∀ tag ∈ a.tag, IsTrimmed tag.toList
  tag_free : ∀ tag ∈ a.tag, ∀ mark ∈ [v.separator, v.addressClose, v.tagsClose], ¬Occurs mark tag

instance {v : Vocabulary} {a : Addressee} : Decidable (a.Plain v) :=
  decidable_of_iff
    (IsTrimmed a.name.toList ∧
      (∀ mark ∈ [v.separator, v.addressClose, v.tagsOpen], ¬Occurs mark a.name) ∧
      (∀ tag ∈ a.tag, IsTrimmed tag.toList) ∧
      ∀ tag ∈ a.tag, ∀ mark ∈ [v.separator, v.addressClose, v.tagsClose], ¬Occurs mark tag)
    ⟨fun ⟨hname, hfree, htag, htags⟩ => ⟨hname, hfree, htag, htags⟩,
      fun h => ⟨h.name_trimmed, h.name_free, h.tag_trimmed, h.tag_free⟩⟩

/-- The name and the tag are what a token can tell of. A name alone may hold brackets, but no pair of
them. -/
structure Settled (v : Vocabulary) (a : Addressee) : Prop where
  name_trimmed : IsTrimmed a.name.toList
  tag_trimmed : ∀ tag ∈ a.tag, IsTrimmed tag.toList
  untagged : a.tag = none → ¬v.HasBrackets a.name
  tagged : ∀ tag ∈ a.tag, ¬Occurs v.tagsOpen a.name ∧ ¬Occurs v.tagsClose tag
  free : ∀ mark ∈ [v.separator, v.addressClose],
    ¬Occurs mark a.name ∧ ∀ tag ∈ a.tag, ¬Occurs mark tag

variable {v : Vocabulary} {a : Addressee} {token mark : String}

theorem Plain.settled (h : a.Plain v) : a.Settled v where
  name_trimmed := h.name_trimmed
  tag_trimmed := h.tag_trimmed
  untagged _ := not_hasBrackets_iff.mpr (.inl (h.name_free _ (by simp)))
  tagged tag htag := ⟨h.name_free _ (by simp), h.tag_free tag htag _ (by simp)⟩
  free mark hmark := by
    have hmark : ∀ other, mark ∈ [v.separator, v.addressClose, other] :=
      fun other => List.mem_append_left [other] hmark
    exact ⟨h.name_free mark (hmark _), fun tag htag => h.tag_free tag htag mark (hmark _)⟩

/-! ## Reading tokens -/

/-- Whatever token is read, it tells of an addressee that can be written. -/
theorem settled_ofToken (hopen : v.tagsOpen.length = 1) (hclose : v.tagsClose.length = 1)
    (hfree : ∀ mark ∈ [v.separator, v.addressClose], ¬Occurs mark token) :
    (ofToken v token).Settled v := by
  by_cases hbrackets : v.HasBrackets token
  · obtain ⟨name, tag, tail, hfirst⟩ := hbrackets.exists_first
    rw [ofToken_of_firstBrackets hfirst]
    have hname : ¬Occurs v.tagsOpen name := hfirst.opened.not_isInfix (toList_ne_nil_of_length hopen)
    have htag : ¬Occurs v.tagsClose tag := hfirst.closed.not_isInfix (toList_ne_nil_of_length hclose)
    -- name and tag are parts of the token
    have hparts : ∀ mark ∈ [v.separator, v.addressClose], ¬Occurs mark name ∧ ¬Occurs mark tag := by
      intro mark hmark
      have htoken := hfree mark hmark
      rw [hfirst.eq] at htoken
      refine ⟨fun hn => htoken ?_, fun ht => htoken ?_⟩
      · exact (((hn.append_right _).append_right _).append_right _).append_right _
      · exact ((ht.append_left _).append_right _).append_right _
    refine ⟨isTrimmed_trimmed _, ?_, nofun, ?_, fun mark hmark => ⟨?_, ?_⟩⟩
    · rintro _ ⟨⟩
      exact isTrimmed_trimmed _
    · rintro _ ⟨⟩
      exact ⟨fun h => hname h.of_trimmed, fun h => htag h.of_trimmed⟩
    · exact fun h => (hparts mark hmark).1 h.of_trimmed
    · rintro _ ⟨⟩ h
      exact (hparts mark hmark).2 h.of_trimmed
  · rw [ofToken_of_not_hasBrackets hbrackets]
    exact ⟨isTrimmed_trimmed _, nofun, fun _ h => hbrackets h.of_trimmed, nofun,
      fun mark hmark => ⟨fun h => hfree mark hmark h.of_trimmed, nofun⟩⟩

namespace Settled

/-- The token of an addressee tells of that addressee. -/
theorem ofToken_written (h : a.Settled v) (hopen : v.tagsOpen.length = 1)
    (hclose : v.tagsClose.length = 1) : ofToken v (a.written v) = a := by
  obtain ⟨name, tag⟩ := a
  cases tag with
  | none =>
    have hread := ofToken_of_not_hasBrackets (h.untagged rfl)
    rwa [trimmed_eq_self h.name_trimmed] at hread
  | some tag =>
    obtain ⟨hname, htag⟩ := h.tagged tag rfl
    have hfirst := firstBrackets_of_not_occurs hopen hclose hname htag ""
    rw [String.append_empty] at hfirst
    have hread := ofToken_of_firstBrackets hfirst
    rwa [trimmed_eq_self h.name_trimmed, trimmed_eq_self (h.tag_trimmed tag rfl)] at hread

/-- Neither the separator nor the end of the address is in a token. -/
theorem not_occurs_written (h : a.Settled v)
    (hmarks : SingleMarks [v.tagsOpen, v.tagsClose, v.separator, v.addressClose])
    (hmark : mark ∈ [v.separator, v.addressClose]) : ¬Occurs mark (a.written v) := by
  have hsingle := hmarks.single mark (List.mem_append_right [v.tagsOpen, v.tagsClose] hmark)
  -- they are no brackets
  have hdistinct : ([v.tagsOpen, v.tagsClose] ++ [v.separator, v.addressClose]).Nodup :=
    hmarks.distinct
  have hbrackets : ∀ bracket ∈ [v.tagsOpen, v.tagsClose], ¬Occurs mark bracket := by
    intro bracket hbracket
    have hne := (List.nodup_append.mp hdistinct).2.2 bracket hbracket mark hmark
    exact not_occurs_of_ne hsingle (hmarks.single _ (List.mem_append_left _ hbracket)) hne.symm
  obtain ⟨hname, htag⟩ := h.free mark hmark
  obtain ⟨name, tag⟩ := a
  cases tag with
  | none => exact hname
  | some tag =>
    have htag := htag tag rfl
    simp only [written, occurs_append hsingle, not_or]
    exact ⟨⟨⟨hname, hbrackets _ (by simp)⟩, htag⟩, hbrackets _ (by simp)⟩

end Settled

end Addressee

/-! ## Reading lines -/

namespace Vocabulary

variable {v : Vocabulary} {line : String} {d : Dialogue}

/-- A line of dialogue tells of settled addressees, and of one at least. -/
theorem settled_of_ofText
    (h : SingleMarks [v.tagsOpen, v.tagsClose, v.separator, v.addressClose])
    (hread : Line.ofText v line = .dialogue d) :
    d.addressees ≠ [] ∧ ∀ a ∈ d.addressees, a.Settled v := by
  have hseparator := toList_ne_nil_of_length (h.single v.separator (by simp))
  have haddressClose := toList_ne_nil_of_length (h.single v.addressClose (by simp))
  rcases ofText_cases v line with ⟨address, text, haddress⟩ | ⟨-, hline⟩ | ⟨-, hline⟩
  · rw [haddress.ofText_eq, Line.dialogue.injEq] at hread
    subst hread
    refine ⟨by simpa using split_ne_nil _ _, fun a ha => ?_⟩
    obtain ⟨token, htoken, rfl⟩ := List.mem_map.mp ha
    refine Addressee.settled_ofToken (h.single _ (by simp)) (h.single _ (by simp)) ?_
    intro mark hmark
    rw [Occurs, String.toList_ofList]
    rcases List.mem_pair.mp hmark with rfl | rfl
    · exact not_isInfix_of_mem_split hseparator htoken
    · -- the address ends where it is first closed
      have hfirst := haddress.firstAt
      exact fun hclose =>
        hfirst.not_isInfix haddressClose (hclose.trans (isInfix_of_mem_split hseparator htoken))
  · rw [hline] at hread
    cases hread
  · rw [hline] at hread
    cases hread

/-- Settled addressees and any text are read as they are written. -/
theorem ofText_written_of_settled
    (h : SingleMarks [v.tagsOpen, v.tagsClose, v.separator, v.addressClose])
    (hne : d.addressees ≠ []) (hsettled : ∀ a ∈ d.addressees, a.Settled v) :
    Line.ofText v (d.written v) = .dialogue d := by
  have hs := h.single v.separator (by simp)
  have he := h.single v.addressClose (by simp)
  have hseparate : v.addressClose ≠ v.separator := by
    have hdistinct := h.distinct
    simp only [List.nodup_cons, List.mem_singleton] at hdistinct
    exact Ne.symm hdistinct.2.2.1
  have hfree : ∀ mark ∈ [v.separator, v.addressClose], ∀ token ∈ d.addressees.map (·.written v),
      ¬Occurs mark token := by
    intro mark hmark token htoken
    obtain ⟨a, ha, rfl⟩ := List.mem_map.mp htoken
    exact (hsettled a ha).not_occurs_written h hmark
  have haddress : v.Addresses (d.written v) (v.writtenAddress d.addressees) d.text := by
    have hnot : ¬Occurs v.addressClose (v.writtenAddress d.addressees) :=
      not_occurs_intercalate he (not_occurs_of_ne he hs hseparate) (hfree _ (by simp))
    have hline := addresses_of_firstAt (firstAt_of_not_occurs he hnot d.text)
    rw [String.ofList_toList, String.ofList_toList] at hline
    simpa only [Dialogue.written, String.append_assoc] using hline
  have htokens : split v.separator.toList (v.writtenAddress d.addressees).toList
      = (d.addressees.map (·.written v)).map String.toList :=
    split_toList_intercalate hs (by simpa using hne) (hfree _ (by simp))
  have hread : d.addressees.map (fun a => Addressee.ofToken v (a.written v)) = d.addressees :=
    (List.map_congr_left fun a ha => (hsettled a ha).ofToken_written (h.single _ (by simp))
      (h.single _ (by simp))).trans (List.map_id _)
  rw [haddress.ofText_eq, htokens]
  simp only [List.map_map, Function.comp_def, String.ofList_toList, hread]

end Vocabulary

/-- **Dialogue is read as it is written**, if the marks in an address are single characters and the
addressees plain. Written once more after it was read, any dialogue is read as before. -/
theorem Line.ofText_written {v : Vocabulary}
    (h : SingleMarks [v.tagsOpen, v.tagsClose, v.separator, v.addressClose]) :
    (∀ d : Dialogue, d.addressees ≠ [] → (∀ a ∈ d.addressees, a.Plain v) →
      ofText v (d.written v) = .dialogue d) ∧
    ∀ line d, ofText v line = .dialogue d → ofText v (d.written v) = .dialogue d := by
  refine ⟨fun d hne hplain => ?_, fun line d hread => ?_⟩
  · exact ofText_written_of_settled h hne fun a ha => (hplain a ha).settled
  · obtain ⟨hne, hsettled⟩ := settled_of_ofText h hread
    exact ofText_written_of_settled h hne hsettled

/-- Dialogue with a bracket in a tag, somebody without a name, and a text that seems to go on with
the address. -/
def whisper : Dialogue where
  addressees := [{ name := "Bob", tag := some "very [urgent" }, { name := "" }, { name := "Ann" }]
  text := ", Eve) come (now). "

theorem Line.ofText_written_whisper :
    SingleMarks ["[", "]", ",", ")"] ∧ (∀ a ∈ whisper.addressees, a.Plain {}) ∧
    whisper.written {} = "(To Bob[very [urgent],,Ann), Eve) come (now). " ∧
    ofText {} (whisper.written {}) = .dialogue whisper ∧
    ∃ d, ofText {} "(To  Bob [urgent, Ann [ aside ] here,)Hi." = .dialogue d ∧
      d.written {} = "(To Bob [urgent,Ann[aside],)Hi." ∧
      ofText {} (d.written {}) = .dialogue d := by
  have hmarks : SingleMarks ["[", "]", ",", ")"] := by decide +kernel
  have hplain : ∀ a ∈ whisper.addressees, a.Plain {} := by decide +kernel
  obtain ⟨hwritten, hagain⟩ := ofText_written (v := {}) hmarks
  have hread : ofText {} "(To  Bob [urgent, Ann [ aside ] here,)Hi." = .dialogue _ := rfl
  exact ⟨hmarks, hplain, by decide +kernel, hwritten whisper nofun hplain, _, hread,
    by decide +kernel, hagain _ _ hread⟩

end Dramaturgy
