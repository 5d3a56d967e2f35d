/-!
# Finding markers in a text

A marker is any list of characters, the empty one included. A text is cut at the first occurrence of
a marker, freed of a marker at its start or its end, or split at every occurrence.

* `cut? m s` is the text before and after the first occurrence of `m` in `s`.
* `after? m s` and `before? m s` drop a marker that the text starts or ends with.
* `split m s` is the list of pieces between the occurrences of `m`, taken from the left without
  overlap. `skip` in `pieces` counts the characters of the last separator that are still to be
  passed over, so that the recursion runs down the text.
-/

namespace Dramaturgy.Text

/-- What follows the marker `m` in a text that starts with it. -/
def after? (m s : List Char) : Option (List Char) :=
  m.isPrefixOf? s

theorem after?_eq_some_iff {m s r : List Char} : after? m s = some r ↔ s = m ++ r := by
  unfold after?
  induction m generalizing s with
  | nil =>
    have hall : [].isPrefixOf? s = some s := by cases s <;> rfl
    rw [hall, List.nil_append, Option.some.injEq]
  | cons c m ih =>
    cases s with
    | nil => exact iff_of_false nofun nofun
    | cons d s =>
      have hstep : (c :: m).isPrefixOf? (d :: s) = if c == d then m.isPrefixOf? s else none := rfl
      rw [hstep]
      by_cases h : c = d
      · simp [h, ih]
      · simp [h, Ne.symm h]

/-- What precedes the marker `m` in a text that ends with it. -/
def before? (m s : List Char) : Option (List Char) :=
  (after? m.reverse s.reverse).map List.reverse

theorem before?_eq_some_iff {m s r : List Char} : before? m s = some r ↔ s = r ++ m := by
  simp only [before?, Option.map_eq_some_iff, after?_eq_some_iff]
  constructor
  · rintro ⟨a, ha, rfl⟩
    simpa using congrArg List.reverse ha
  · rintro rfl
    exact ⟨r.reverse, by simp, by simp⟩

/-- The text before and after the first occurrence of the marker `m`. -/
def cut? (m : List Char) : List Char → Option (List Char × List Char)
  | [] => if m.isEmpty then some ([], []) else none
  | c :: s =>
    match after? m (c :: s) with
    | some r => some ([], r)
    | none => (cut? m s).map fun p => (c :: p.1, p.2)

theorem eq_of_cut? {m s a b : List Char} (h : cut? m s = some (a, b)) : s = a ++ m ++ b := by
  induction s generalizing a b with
  | nil =>
    rw [cut?] at h
    split at h
    · simp_all
    · cases h
  | cons c s ih =>
    rw [cut?] at h
    split at h
    · next r hr =>
      cases h
      simpa using after?_eq_some_iff.1 hr
    · obtain ⟨p, hp, hpair⟩ := Option.map_eq_some_iff.1 h
      cases hpair
      simpa using ih hp

/-! ## Splitting -/

/-- Puts a character in front of the first of some pieces. -/
def extendFirst (c : Char) : List (List Char) → List (List Char)
  | [] => [[c]]
  | p :: ps => (c :: p) :: ps

/-- The pieces between the occurrences of a separator that is not empty, `skip` characters on. -/
def pieces (m : List Char) : Nat → List Char → List (List Char)
  | _, [] => [[]]
  | skip + 1, _ :: s => pieces m skip s
  | 0, c :: s =>
    if (after? m (c :: s)).isSome then
      [] :: pieces m (m.length - 1) s
    else
      extendFirst c (pieces m 0 s)

/-- The pieces between the occurrences of the separator `m`. The empty separator stands before,
between and after all characters. -/
def split (m s : List Char) : List (List Char) :=
  if m.isEmpty then
    [] :: s.map (fun c => [c]) ++ [[]]
  else
    pieces m 0 s

end Dramaturgy.Text
