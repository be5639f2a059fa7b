import Mathlib.Data.List.TakeWhile
import OperationCheck.Files.Path

/-!
Extensions of names. The main statements say that the extension of a name is what is behind its last
dot, that a dot at the beginning does not count, and that a text ends in one way behind its last
mark.
-/

namespace OperationCheck.Text

/-- Signs that come before the letters are no letters in lower case. -/
theorem toLower_eq_iff {c mark : Char} (below : mark.toNat < 65) : c.toLower = mark ↔ c = mark := by
  unfold Char.toLower
  split
  · next isUpper =>
      have lower : 65 ≤ c.val.toNat := isUpper.1
      have upper : c.val.toNat ≤ 90 := isUpper.2
      constructor
      · rintro rfl
        have sum : (c.val + ('a'.val - 'A'.val)).toNat = c.val.toNat + 32 := by
          rw [UInt32.toNat_add]
          change (c.val.toNat + 32) % 2 ^ 32 = c.val.toNat + 32
          omega
        change (c.val + ('a'.val - 'A'.val)).toNat < 65 at below
        omega
      · rintro rfl
        change c.val.toNat < 65 at below
        omega
  · exact Iff.rfl

/-- Letters in lower case have the same marks among them. -/
theorem mem_map_toLower {mark : Char} (below : mark.toNat < 65) {text : List Char} :
    mark ∈ text.map Char.toLower ↔ mark ∈ text := by
  simp only [List.mem_map, toLower_eq_iff below, exists_eq_right]

end OperationCheck.Text

namespace OperationCheck.Files

/-- A text that has a character has a part behind the last one. -/
theorem exists_behind_last {mark : Char} {text : List Char} (member : mark ∈ text) :
    ∃ front behind, text = front ++ mark :: behind ∧ mark ∉ behind := by
  obtain ⟨behind, front, isReverse, absent⟩ :=
    List.eq_append_cons_of_mem (List.mem_reverse.2 member)
  refine ⟨front.reverse, behind.reverse, ?_, by simpa using absent⟩
  rw [← List.reverse_reverse text, isReverse]
  simp

/-- What is behind the last mark is found from the end. -/
theorem takeWhile_reverse_of_last {mark : Char} {behind : List Char} (absent : mark ∉ behind)
    (front : List Char) :
    (front ++ mark :: behind).reverse.takeWhile (· ≠ mark) = behind.reverse := by
  rw [List.reverse_append, List.reverse_cons, List.append_assoc, List.takeWhile_append_of_pos]
  · simp
  · intro c member
    refine decide_eq_true ?_
    rintro rfl
    exact absent (List.mem_reverse.1 member)

/-- Behind its last mark a text ends in one way only. -/
theorem suffix_mark_iff {mark : Char} {ending behind : List Char} (noMark : mark ∉ ending)
    (absent : mark ∉ behind) (front : List Char) :
    mark :: ending <:+ front ++ mark :: behind ↔ ending = behind := by
  constructor
  · intro ends
    have whole := List.suffix_append front (mark :: behind)
    rcases List.suffix_or_suffix_of_suffix ends whole with within | beyond
    · rcases List.suffix_cons_iff.1 within with same | later
      · exact (List.cons.inj same).2
      · exact absurd (later.subset List.mem_cons_self) absent
    · rcases List.suffix_cons_iff.1 beyond with same | later
      · exact (List.cons.inj same).2.symm
      · exact absurd (later.subset List.mem_cons_self) noMark
  · rintro rfl
    exact List.suffix_append _ _

/-- A name without a dot has no extension. -/
theorem extensionOf_of_noDot {name : String} (noDot : '.' ∉ name.toList) :
    extensionOf name = none := by
  have whole : name.toList.reverse.takeWhile (· ≠ '.') = name.toList.reverse := by
    refine List.takeWhile_eq_self_iff.2 fun c member => decide_eq_true ?_
    rintro rfl
    exact noDot (List.mem_reverse.1 member)
  simp only [extensionOf, whole, List.drop_length]

/-- What is behind the last dot of a name is its extension, unless the dot comes first. -/
theorem extensionOf_of_dot {name : String} {front behind : List Char}
    (isName : name.toList = front ++ '.' :: behind) (noDot : '.' ∉ behind) :
    extensionOf name = if front = [] then none else some (String.ofList behind) := by
  have isEnding := takeWhile_reverse_of_last noDot front
  simp only [extensionOf, isName, isEnding]
  rw [List.reverse_append, List.reverse_cons, List.append_assoc, List.drop_left]
  cases isFront : front.reverse with
  | nil =>
      rw [if_pos (List.reverse_eq_nil_iff.1 isFront)]
      rfl
  | cons c rest =>
      rw [if_neg fun none => by simp [none] at isFront]
      simp

end OperationCheck.Files
