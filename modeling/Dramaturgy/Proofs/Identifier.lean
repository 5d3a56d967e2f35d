import Dramaturgy.Stage

/-!
# Ids can be taken apart

An id is put together from the headings and numbers of an act and a scene and, for what is in the
scene, a name. Headings and names are any texts. The numbers are in digits and a dot is not a digit,
so that nothing is lost:

* `sceneId_inj`: a scene's id gives its act and its number;
* `localId_inj`: an id in a scene gives the scene and the name;
* `localId_ne_sceneId`: an id in a scene is never that of a scene.
-/

namespace Dramaturgy

/-! ## Numerals -/

theorem toString_inj {m n : Nat} : toString m = toString n ↔ m = n := by
  refine ⟨fun h => ?_, fun h => by rw [h]⟩
  have hd : Nat.toDigits 10 m = Nat.toDigits 10 n := by
    simpa [Nat.toString_eq_repr] using congrArg String.toList h
  simpa using congrArg (Nat.ofDigitChars 10 · 0) hd

theorem dot_notMem_toString (n : Nat) : '.' ∉ (toString n).toList := by
  intro h
  rw [Nat.toString_eq_repr, Nat.toList_repr] at h
  exact absurd (Nat.isDigit_of_mem_toDigits (by decide) (by decide) h) (by decide)

/-- Two texts that are the same are so up to the first dot and after it. -/
theorem append_dot_inj {x y : List Char} : ∀ {p q : List Char}, '.' ∉ p → '.' ∉ q →
    p ++ '.' :: x = q ++ '.' :: y → p = q ∧ x = y
  | [], [], _, _, h => ⟨rfl, (List.cons.inj h).2⟩
  | [], c :: q, _, hq, h => absurd (List.cons.inj h).1 (List.ne_of_not_mem_cons hq)
  | c :: p, [], hp, _, h => absurd (List.cons.inj h).1.symm (List.ne_of_not_mem_cons hp)
  | c :: p, d :: q, hp, hq, h => by
    obtain ⟨hc, hrest⟩ := List.cons.inj h
    obtain ⟨hpq, hxy⟩ := append_dot_inj (List.not_mem_of_not_mem_cons hp)
      (List.not_mem_of_not_mem_cons hq) hrest
    exact ⟨by rw [hc, hpq], hxy⟩

/-! ## The ids of a vocabulary -/

/-- The id of a scene. -/
def Vocabulary.sceneId (v : Vocabulary) (act scene : Nat) : String :=
  v.actLabel act ++ "." ++ v.sceneLabel scene

/-- The id of something in the scene with the given id. -/
def localId (scene name : String) : String :=
  scene ++ "." ++ name

theorem Stage.sceneId_eq (s : Stage) :
    s.sceneId = s.vocabulary.sceneId s.position.act s.position.scene := rfl

theorem Stage.nodeId_eq (s : Stage) (name : String) : s.nodeId name = localId s.sceneId name := rfl

theorem localId_right_inj {scene x y : String} : localId scene x = localId scene y ↔ x = y := by
  simp [localId, String.append_right_inj]

namespace Vocabulary

variable {v : Vocabulary} {a b m n : Nat}

/-- What stands behind the number of an act begins with a dot, so that the number ends there. -/
theorem sceneId_append_inj {x y : List Char}
    (h : (v.sceneId a m).toList ++ x = (v.sceneId b n).toList ++ y) :
    a = b ∧ (toString m).toList ++ x = (toString n).toList ++ y := by
  simp only [sceneId, actLabel, sceneLabel, String.toList_append, List.append_assoc,
    List.append_cancel_left_eq] at h
  obtain ⟨hact, hrest⟩ := append_dot_inj (dot_notMem_toString a) (dot_notMem_toString b) h
  exact ⟨toString_inj.mp (String.toList_inj.mp hact), List.append_cancel_left hrest⟩

theorem sceneId_inj : v.sceneId a m = v.sceneId b n ↔ a = b ∧ m = n := by
  refine ⟨fun h => ?_, fun ⟨ha, hm⟩ => by rw [ha, hm]⟩
  -- nothing stands behind the number of the scene
  obtain ⟨ha, hm⟩ := sceneId_append_inj (congrArg (String.toList · ++ []) h)
  rw [List.append_nil, List.append_nil] at hm
  exact ⟨ha, toString_inj.mp (String.toList_inj.mp hm)⟩

theorem localId_inj {x y : String} :
    localId (v.sceneId a m) x = localId (v.sceneId b n) y ↔ (a = b ∧ m = n) ∧ x = y := by
  refine ⟨fun h => ?_, fun ⟨⟨ha, hm⟩, hx⟩ => by rw [ha, hm, hx]⟩
  have hl := congrArg String.toList h
  simp only [localId, String.toList_append, List.append_assoc] at hl
  obtain ⟨ha, hrest⟩ := sceneId_append_inj hl
  obtain ⟨hm, hx⟩ := append_dot_inj (dot_notMem_toString m) (dot_notMem_toString n) hrest
  exact ⟨⟨ha, toString_inj.mp (String.toList_inj.mp hm)⟩, String.toList_inj.mp hx⟩

theorem localId_ne_sceneId {x : String} : localId (v.sceneId a m) x ≠ v.sceneId b n := by
  intro h
  have hl := congrArg String.toList h
  simp only [localId, String.toList_append, List.append_assoc] at hl
  rw [← List.append_nil (v.sceneId b n).toList] at hl
  obtain ⟨-, hrest⟩ := sceneId_append_inj hl
  -- the dot in front of the name would be in the number of a scene
  rw [List.append_nil] at hrest
  exact dot_notMem_toString n (by rw [← hrest]; simp)

end Vocabulary

end Dramaturgy
