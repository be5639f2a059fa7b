import OperationCheck.Template.Opener

/-!
The language of openers. The main statement says that the reader takes an opener from the beginning
of a source exactly when one stands there, so there is never more than one.
-/

namespace OperationCheck.Template

open OperationCheck

/-- A matcher recognizes a language when it splits a source exactly behind the texts of the
language that the source begins with. -/
def Recognizes (matcher : List Char → Option Split) (language : List Char → Prop) : Prop :=
  ∀ source split, matcher source = some split ↔ split.1 ++ split.2 = source ∧ language split.1

/-- No text of the language begins with a blank, and none is empty. -/
def BeginsVisibly (language : List Char → Prop) : Prop :=
  ∀ text, language text → ∃ c rest, text = c :: rest ∧ Text.isBlank c = false

/-- A text of the language stands behind a word. -/
def Behind (word : List Char) (language : List Char → Prop) (text : List Char) : Prop :=
  ∃ ending, language ending ∧ text = word ++ ending

/-- A text of the language stands behind any number of blanks. -/
def BehindBlanks (language : List Char → Prop) (text : List Char) : Prop :=
  ∃ blanks ending, Text.isBlankText blanks = true ∧ language ending ∧ text = blanks ++ ending

/-- A call has a parenthesis and the backtick of its argument. -/
def IsCall : List Char → Prop := Behind ['('] (BehindBlanks (· = ['\x60']))

/-- A tag ends with a backtick, which may be the first one of a call. -/
def IsTagEnd : List Char → Prop := BehindBlanks fun text => IsCall text ∨ text = ['\x60']

/-- A tag is one of two words. -/
def IsTag (text : List Char) : Prop :=
  Behind "gql".toList IsTagEnd text ∨ Behind "graphql".toList IsTagEnd text

/-- A marking comment stands before the backtick. -/
def IsComment : List Char → Prop :=
  Behind ['/', '*'] (BehindBlanks (Behind "GraphQL".toList
    (BehindBlanks (Behind ['*', '/'] (BehindBlanks (· = ['\x60']))))))

/-- A word boundary has a word character on exactly one side. -/
def IsBoundary (before after : List Char) : Prop :=
  before.getLast?.any Unicode.isWord ≠ after.head?.any Unicode.isWord

/-- An opener is a tag at a word boundary or a marking comment. -/
def IsOpener (before opening : List Char) : Prop :=
  IsBoundary before opening ∧ IsTag opening ∨ IsComment opening

theorem recognizes_matchWord (word : List Char) : Recognizes (matchWord word) (· = word) := by
  intro source split
  constructor
  · intro found
    refine ⟨splits_matchWord word source split found, ?_⟩
    change split.1 = word
    fun_induction matchWord word source generalizing split with
    | case1 source =>
        rw [← Option.some.inj found]
    | case2 => cases found
    | case3 word c rest ih =>
        obtain ⟨inner, innerFound, rfl⟩ := Option.map_eq_some_iff.1 found
        exact congrArg (c :: ·) (ih inner innerFound)
    | case4 => cases found
  · rintro ⟨rfl, same⟩
    obtain ⟨taken, rest⟩ := split
    change taken = word at same
    subst same
    induction taken with
    | nil => rfl
    | cons c taken ih => simp [matchWord, ih]

/-- The word and what is behind it are matched in a row. -/
theorem recognizes_behind {next : List Char → Option Split} {language : List Char → Prop}
    (recognizes : Recognizes next language) (word : List Char) :
    Recognizes (fun source => andThen (matchWord word source) next) (Behind word language) := by
  intro source split
  constructor
  · intro found
    simp only [andThen] at found
    split at found
    · cases found
    · next taken rest first =>
        obtain ⟨inner, second, rfl⟩ := Option.map_eq_some_iff.1 found
        obtain ⟨whole, rfl⟩ := (recognizes_matchWord word source _).1 first
        obtain ⟨tail, isEnding⟩ := (recognizes rest inner).1 second
        exact ⟨by rw [List.append_assoc, tail]; exact whole, inner.1, isEnding, rfl⟩
  · rintro ⟨rfl, ending, isEnding, taken⟩
    have first : matchWord word (split.1 ++ split.2) = some (word, ending ++ split.2) :=
      (recognizes_matchWord word _ _).2 ⟨by rw [taken, List.append_assoc], rfl⟩
    have second : next (ending ++ split.2) = some (ending, split.2) :=
      (recognizes _ _).2 ⟨rfl, isEnding⟩
    simp only [andThen, first, second, Option.map_some, ← taken]

/-- The blanks in front end where a text of the language begins. -/
theorem recognizes_behindBlanks {next : List Char → Option Split} {language : List Char → Prop}
    (recognizes : Recognizes next language) (visible : BeginsVisibly language) :
    Recognizes (blanksThen next) (BehindBlanks language) := by
  intro source split
  constructor
  · intro found
    simp only [blanksThen, andThen, matchBlanks] at found
    obtain ⟨inner, second, rfl⟩ := Option.map_eq_some_iff.1 found
    obtain ⟨tail, isEnding⟩ := (recognizes _ inner).1 second
    refine ⟨?_, _, inner.1, List.all_takeWhile, isEnding, rfl⟩
    rw [List.append_assoc, tail]
    exact List.takeWhile_append_dropWhile
  · rintro ⟨rfl, blanks, ending, isBlank, isEnding, taken⟩
    obtain ⟨c, rest, rfl, noBlank⟩ := visible ending isEnding
    have allBlank : ∀ c ∈ blanks, Text.isBlank c = true := List.all_eq_true.1 isBlank
    have second : next ((c :: rest) ++ split.2) = some (c :: rest, split.2) :=
      (recognizes _ _).2 ⟨rfl, isEnding⟩
    simp only [blanksThen, andThen, matchBlanks, taken, List.append_assoc,
      List.takeWhile_append_of_pos allBlank, List.dropWhile_append_of_pos allBlank,
      List.cons_append, List.takeWhile_cons, List.dropWhile_cons, noBlank, Bool.false_eq_true,
      if_false, List.append_nil]
    rw [List.cons_append] at second
    rw [second, Option.map_some, ← taken]

theorem beginsVisibly_backtick : BeginsVisibly (· = ['\x60']) :=
  fun _ same => ⟨'\x60', [], same, by decide⟩

/-- A text behind a word that begins with no blank begins with none. -/
theorem beginsVisibly_behind {c : Char} (noBlank : Text.isBlank c = false) (word : List Char)
    (language : List Char → Prop) : BeginsVisibly (Behind (c :: word) language) :=
  fun _ ⟨ending, _, same⟩ => ⟨c, word ++ ending, same, noBlank⟩

/-- Blanks and a backtick are recognized however many blanks there are. -/
theorem recognizes_blanksBacktick :
    Recognizes (blanksThen matchBacktick) (BehindBlanks (· = ['\x60'])) :=
  recognizes_behindBlanks (recognizes_matchWord _) beginsVisibly_backtick

/-- The call form is recognized: the word, a parenthesis and a backtick, with blanks between. -/
theorem recognizes_matchCall : Recognizes matchCall IsCall :=
  recognizes_behind recognizes_blanksBacktick _

/-- The parenthesis tells a call from a backtick. -/
theorem recognizes_matchTagEnd : Recognizes matchTagEnd IsTagEnd := by
  refine recognizes_behindBlanks (fun source split => ?_) ?_
  · have isWord := recognizes_matchWord ['\x60'] source split
    have isCall := recognizes_matchCall source split
    split
    · refine ⟨fun found => ⟨(isCall.1 found).1, .inl (isCall.1 found).2⟩, ?_⟩
      rintro ⟨whole, call | backtick⟩
      · exact isCall.2 ⟨whole, call⟩
      · rw [backtick] at whole
        cases whole
    · next noParenthesis =>
        refine ⟨fun found => ⟨(isWord.1 found).1, .inr (isWord.1 found).2⟩, ?_⟩
        rintro ⟨whole, ⟨ending, _, call⟩ | backtick⟩
        · rw [call] at whole
          exact absurd whole.symm (noParenthesis _)
        · exact isWord.2 ⟨whole, backtick⟩
  · rintro text (call | backtick)
    · exact beginsVisibly_behind (by decide) _ _ text call
    · exact beginsVisibly_backtick text backtick

/-- Both tags begin with a word character, so they stand at a word boundary when there is no word
character before them. -/
theorem isBoundary_tag {before opening : List Char} (isTag : IsTag opening) :
    IsBoundary before opening ↔ ¬before.getLast?.any Unicode.isWord = true := by
  have begins : opening.head? = some 'g' := by
    rcases isTag with ⟨ending, -, rfl⟩ | ⟨ending, -, rfl⟩ <;> rfl
  have isWord : Unicode.isWord 'g' = true := by decide +kernel
  simp only [IsBoundary, begins, Option.any_some, isWord, ne_eq]

/-- A tag is recognized where no part of a word stands in front of it. -/
theorem recognizes_matchTag (before : List Char) :
    Recognizes (matchTag before.getLast?)
      (fun opening => IsBoundary before opening ∧ IsTag opening) := by
  intro source split
  have short : andThen (matchWord "gql".toList source) matchTagEnd = some split ↔ _ :=
    recognizes_behind recognizes_matchTagEnd "gql".toList source split
  have long : andThen (matchWord "graphql".toList source) matchTagEnd = some split ↔ _ :=
    recognizes_behind recognizes_matchTagEnd "graphql".toList source split
  unfold matchTag
  split
  · next isWord =>
      refine ⟨nofun, fun ⟨_, boundary, isTag⟩ => ?_⟩
      exact absurd isWord ((isBoundary_tag isTag).1 boundary)
  · next noWord =>
      have boundary (isTag : IsTag split.1) : IsBoundary before split.1 :=
        (isBoundary_tag isTag).2 noWord
      split
      · next other found =>
          -- The reader tries the short tag first, but no source begins with both.
          rw [← found, short]
          constructor
          · exact fun ⟨whole, isShort⟩ => ⟨whole, boundary (.inl isShort), .inl isShort⟩
          · rintro ⟨whole, _, isShort | ⟨ending, _, isLong⟩⟩
            · exact ⟨whole, isShort⟩
            · have begins := (recognizes_behind recognizes_matchTagEnd "gql".toList source _).1 found
              obtain ⟨same, other, _, isShort⟩ := begins
              rw [isShort, ← whole, isLong] at same
              cases same
      · next noShort =>
          rw [long]
          constructor
          · exact fun ⟨whole, isLong⟩ => ⟨whole, boundary (.inr isLong), .inr isLong⟩
          · rintro ⟨whole, _, isShort | isLong⟩
            · rw [short.2 ⟨whole, isShort⟩] at noShort
              cases noShort
            · exact ⟨whole, isLong⟩

theorem recognizes_matchComment : Recognizes matchComment IsComment :=
  recognizes_behind (recognizes_behindBlanks (recognizes_behind (recognizes_behindBlanks
    (recognizes_behind recognizes_blanksBacktick _) (beginsVisibly_behind (by decide) _ _)) _)
    (beginsVisibly_behind (by decide) _ _)) _

/-- The reader takes an opener exactly when the source begins with one. -/
theorem recognizes_matchOpener (before : List Char) :
    Recognizes (matchOpener before.getLast?) (IsOpener before) := by
  intro source split
  have tag := recognizes_matchTag before source split
  have comment := recognizes_matchComment source split
  unfold matchOpener
  split
  · next other found =>
      rw [← found, tag]
      constructor
      · exact fun ⟨whole, isTag⟩ => ⟨whole, .inl isTag⟩
      · rintro ⟨whole, isTag | ⟨ending, _, isComment⟩⟩
        · exact ⟨whole, isTag⟩
        · obtain ⟨same, _, ⟨_, _, isTag⟩ | ⟨_, _, isTag⟩⟩ :=
            (recognizes_matchTag before source other).1 found <;>
          · rw [isTag, ← whole, isComment] at same
            cases same
  · next noTag =>
      rw [comment]
      constructor
      · exact fun ⟨whole, isComment⟩ => ⟨whole, .inr isComment⟩
      · rintro ⟨whole, isTag | isComment⟩
        · rw [tag.2 ⟨whole, isTag⟩] at noTag
          cases noTag
        · exact ⟨whole, isComment⟩

end OperationCheck.Template
