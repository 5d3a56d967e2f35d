/-!
# Lists of entries

A list of keys with values, in the order in which the keys are first written. `putEntry` is the one
way to change such a list, and `map_fst_putEntry` says which keys there are afterwards.
-/

namespace Dramaturgy

variable {α : Type}

/-- Gives a key a value: in its place if the list has the key, and at the end otherwise. -/
def putEntry (key : String) (value : α) : List (String × α) → List (String × α)
  | [] => [(key, value)]
  | e :: es => if e.1 = key then (key, value) :: es else e :: putEntry key value es

theorem map_fst_putEntry (key : String) (value : α) (es : List (String × α)) :
    (putEntry key value es).map (·.1)
      = if key ∈ es.map (·.1) then es.map (·.1) else es.map (·.1) ++ [key] := by
  induction es with
  | nil => simp [putEntry]
  | cons e es ih =>
    by_cases h : e.1 = key
    · simp [putEntry, h]
    · simp only [putEntry, if_neg h, List.map_cons, ih, List.mem_cons, Ne.symm h, false_or]
      split <;> simp

end Dramaturgy
