import OperationCheck.Proofs.Pattern.Search

/-!
Words of patterns without assertions. Such a pattern matches from one position to another exactly
when the text between them is one of its words, wherever that text stands. The main statement says
that an anchored pattern is found in a text exactly when the text is one of its words.
-/

namespace OperationCheck.Pattern

/-- A pattern without assertions looks at nothing but the characters that it consumes. -/
def IsPlain : Pattern → Prop
  | .empty | .one _ => True
  | .assertion _ => False
  | .both first second | .either first second => first.IsPlain ∧ second.IsPlain
  | .repeated _ _ inner => inner.IsPlain

/-- The words of a pattern are the texts that it consumes. -/
inductive Derives : Pattern → List Char → Prop where
  | empty : Derives .empty []
  | one {set : CharSet} {c : Char} (accepted : set.contains c = true) : Derives (.one set) [c]
  | both {first second : Pattern} {front back : List Char} (isFront : Derives first front)
      (isBack : Derives second back) : Derives (.both first second) (front ++ back)
  | left {first second : Pattern} {word : List Char} (isWord : Derives first word) :
      Derives (.either first second) word
  | right {first second : Pattern} {word : List Char} (isWord : Derives second word) :
      Derives (.either first second) word
  | done {most : Option Nat} {inner : Pattern} : Derives (.repeated 0 most inner) []
  | required {least : Nat} {most : Option Nat} {inner : Pattern} {front back : List Char}
      (isFront : Derives inner front)
      (isBack : Derives (.repeated least (most.map (· - 1)) inner) back) :
      Derives (.repeated (least + 1) most inner) (front ++ back)
  | optional {most : Option Nat} {inner : Pattern} {front back : List Char}
      (allowed : most ≠ some 0) (isFront : Derives inner front)
      (isBack : Derives (.repeated 0 (most.map (· - 1)) inner) back) :
      Derives (.repeated 0 most inner) (front ++ back)

/-- A match consumes a word. -/
theorem Matches.exists_word {text : List Char} {pattern : Pattern} {start stop : Nat}
    (found : Matches text pattern start stop) (plain : pattern.IsPlain) :
    ∃ word, Derives pattern word ∧ text.drop start = word ++ text.drop stop := by
  induction found with
  | empty start => exact ⟨[], .empty, rfl⟩
  | assertion => exact plain.elim
  | one set start c isNext accepted =>
      obtain ⟨short, same⟩ := List.getElem?_eq_some_iff.1 isNext
      exact ⟨[c], .one accepted, by rw [← same]; exact List.drop_eq_getElem_cons short⟩
  | both first second start middle stop _ _ ihLeft ihRight =>
      obtain ⟨front, isFront, split⟩ := ihLeft plain.1
      obtain ⟨back, isBack, rest⟩ := ihRight plain.2
      exact ⟨front ++ back, .both isFront isBack, by rw [split, rest, List.append_assoc]⟩
  | left _ _ _ _ _ ih =>
      obtain ⟨word, isWord, split⟩ := ih plain.1
      exact ⟨word, .left isWord, split⟩
  | right _ _ _ _ _ ih =>
      obtain ⟨word, isWord, split⟩ := ih plain.2
      exact ⟨word, .right isWord, split⟩
  | done => exact ⟨[], .done, rfl⟩
  | required _ _ _ _ _ _ _ _ ihFirst ihRest =>
      obtain ⟨front, isFront, split⟩ := ihFirst plain
      obtain ⟨back, isBack, rest⟩ := ihRest plain
      exact ⟨front ++ back, .required isFront isBack, by rw [split, rest, List.append_assoc]⟩
  | optional _ _ _ _ _ allowed _ _ ihFirst ihRest =>
      obtain ⟨front, isFront, split⟩ := ihFirst plain
      obtain ⟨back, isBack, rest⟩ := ihRest plain
      exact ⟨front ++ back, .optional allowed isFront isBack, by
        rw [split, rest, List.append_assoc]⟩

/-- What is behind the first part of a rest of a text. -/
theorem drop_add_of_drop {text front rest : List Char} {start : Nat}
    (split : text.drop start = front ++ rest) : text.drop (start + front.length) = rest := by
  rw [← List.drop_drop, split, List.drop_left]

/-- A word is matched wherever it stands. -/
theorem Derives.matches {text : List Char} {pattern : Pattern} {word rest : List Char}
    {start : Nat} (isWord : Derives pattern word) (split : text.drop start = word ++ rest) :
    Matches text pattern start (start + word.length) := by
  induction isWord generalizing start rest with
  | empty => exact .empty start
  | @one set c accepted =>
      refine .one set start c ?_ accepted
      rw [after?, ← Nat.add_zero start, ← List.getElem?_drop, split]
      rfl
  | both _ _ ihFront ihBack =>
      rw [List.append_assoc] at split
      rw [List.length_append, ← Nat.add_assoc]
      exact .both _ _ _ _ _ (ihFront split) (ihBack (drop_add_of_drop split))
  | left _ ih => exact .left _ _ _ _ (ih split)
  | right _ ih => exact .right _ _ _ _ (ih split)
  | done => exact .done _ _ start
  | required _ _ ihFront ihBack =>
      rw [List.append_assoc] at split
      rw [List.length_append, ← Nat.add_assoc]
      exact .required _ _ _ _ _ _ (ihFront split) (ihBack (drop_add_of_drop split))
  | optional allowed _ _ ihFront ihBack =>
      rw [List.append_assoc] at split
      rw [List.length_append, ← Nat.add_assoc]
      exact .optional _ _ _ _ _ allowed (ihFront split) (ihBack (drop_add_of_drop split))

/-- A pattern between the ends of the text is found exactly in its words. -/
theorem isFound_anchored_iff {pattern : Pattern} (plain : pattern.IsPlain) (text : List Char) :
    isFound (.both (.assertion .textStart) (.both pattern (.assertion .textEnd))) text = true ↔
      Derives pattern text := by
  rw [isFound_iff_occurs]
  constructor
  · rintro ⟨start, stop, inside, found⟩
    cases found with
    | both _ _ _ middle _ left right =>
        cases left with
        | assertion _ _ isStart =>
            cases right with
            | both _ _ _ last _ body right =>
                cases right with
                | assertion _ _ isEnd =>
                    have begins : text.take start = [] := by
                      simpa [Assertion.holds, before?] using isStart
                    have ends : text.length ≤ stop := by
                      simpa [Assertion.holds, after?] using isEnd
                    obtain ⟨word, isWord, split⟩ := body.exists_word plain
                    rw [List.drop_eq_nil_of_le ends, List.append_nil] at split
                    have whole := List.take_append_drop start text
                    rw [begins, split, List.nil_append] at whole
                    exact whole ▸ isWord
  · intro isWord
    have body : Matches text pattern 0 text.length := by
      have found := @Derives.matches text pattern text [] 0 isWord (by simp)
      rwa [Nat.zero_add] at found
    refine ⟨0, text.length, Nat.zero_le _, .both _ _ _ 0 _ (.assertion _ _ rfl)
      (.both _ _ _ text.length _ body (.assertion _ _ ?_))⟩
    simp [Assertion.holds, after?]

end OperationCheck.Pattern
