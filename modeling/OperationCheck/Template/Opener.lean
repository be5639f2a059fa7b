import OperationCheck.Text.Blank
import OperationCheck.Unicode.Word

/-!
Openers of embedded operations: the tag `gql` or `graphql`, possibly as a call, or the comment
`/* GraphQL */`, each followed by a backtick. The main statement says that an opener and what
follows it make up the source.
-/

namespace OperationCheck.Template

open OperationCheck

/-- A source splits into a matched beginning and the rest. -/
abbrev Split := List Char × List Char

/-- This function matches a fixed word at the beginning of a source. -/
def matchWord : List Char → List Char → Option Split
  | [], source => some ([], source)
  | _ :: _, [] => none
  | expected :: word, c :: rest =>
      if expected = c then (matchWord word rest).map fun split => (c :: split.1, split.2)
      else none

/-- Blank characters may stand between the parts of an opener. -/
def matchBlanks (source : List Char) : Split :=
  (source.takeWhile Text.isBlank, source.dropWhile Text.isBlank)

/-- Two matches in a row match the concatenation. -/
def andThen (first : Option Split) (next : List Char → Option Split) : Option Split :=
  match first with
  | none => none
  | some (taken, rest) => (next rest).map fun split => (taken ++ split.1, split.2)

/-- This function skips blanks and then matches. -/
def blanksThen (next : List Char → Option Split) (source : List Char) : Option Split :=
  andThen (some (matchBlanks source)) next

def matchBacktick : List Char → Option Split := matchWord ['\x60']

/-- A call puts a parenthesis between the tag and the backtick. -/
def matchCall (source : List Char) : Option Split :=
  andThen (matchWord ['('] source) (blanksThen matchBacktick)

/-- After the tag come blanks, at most one parenthesis, and the backtick. -/
def matchTagEnd : List Char → Option Split :=
  blanksThen fun source =>
    match source with
    | '(' :: _ => matchCall source
    | _ => matchBacktick source

/-- A tag begins at a word boundary. Its first character is a word character, so the character
before it must not be one. -/
def matchTag (before : Option Char) (source : List Char) : Option Split :=
  if before.any Unicode.isWord then none
  else
    match andThen (matchWord "gql".toList source) matchTagEnd with
    | some split => some split
    | none => andThen (matchWord "graphql".toList source) matchTagEnd

/-- A marking comment holds only the word `GraphQL`. -/
def matchComment (source : List Char) : Option Split :=
  andThen (matchWord ['/', '*'] source) <| blanksThen fun source =>
    andThen (matchWord "GraphQL".toList source) <| blanksThen fun source =>
      andThen (matchWord ['*', '/'] source) <| blanksThen matchBacktick

/-- An opener is a tag or a marking comment. The character before the source decides whether a
tag may begin there. -/
def matchOpener (before : Option Char) (source : List Char) : Option Split :=
  match matchTag before source with
  | some split => some split
  | none => matchComment source

/-- A matcher only splits its source. -/
def Splits (matcher : List Char → Option Split) : Prop :=
  ∀ source split, matcher source = some split → split.1 ++ split.2 = source

/-- A word is cut off the source and nothing is lost. -/
theorem splits_matchWord (word : List Char) : Splits (matchWord word) := by
  intro source
  fun_induction matchWord word source with
  | case1 => simp
  | case2 => simp
  | case3 _ _ rest ih =>
      intro split found
      obtain ⟨inner, innerFound, rfl⟩ := Option.map_eq_some_iff.1 found
      simpa using ih inner innerFound
  | case4 => simp

/-- Two matches in a row cut the source where the second one does. -/
theorem splits_andThen {first next : List Char → Option Split} (firstSplits : Splits first)
    (nextSplits : Splits next) : Splits fun source => andThen (first source) next := by
  intro source split found
  simp only [andThen] at found
  split at found
  · simp at found
  · next taken rest firstFound =>
      obtain ⟨inner, innerFound, rfl⟩ := Option.map_eq_some_iff.1 found
      have whole := firstSplits source _ firstFound
      have tail := nextSplits rest inner innerFound
      simp only [List.append_assoc, tail]
      exact whole

/-- Blanks belong to what is cut off. -/
theorem splits_blanksThen {next : List Char → Option Split} (nextSplits : Splits next) :
    Splits (blanksThen next) :=
  splits_andThen
    (fun source split (found : some (matchBlanks source) = some split) => by
      simp only [Option.some.injEq] at found
      rw [← found]
      exact List.takeWhile_append_dropWhile) nextSplits

theorem splits_matchCall : Splits matchCall :=
  splits_andThen (splits_matchWord _) (splits_blanksThen (splits_matchWord _))

theorem splits_matchTagEnd : Splits matchTagEnd := by
  refine splits_blanksThen fun source split found => ?_
  split at found
  · exact splits_matchCall _ _ found
  · exact splits_matchWord _ _ _ found

/-- A tag cuts the source without loss. -/
theorem splits_matchTag (before : Option Char) : Splits (matchTag before) := by
  intro source split found
  simp only [matchTag] at found
  split at found
  · simp at found
  · split at found
    · next _ tagFound =>
        rw [← Option.some.inj found]
        exact splits_andThen (splits_matchWord _) splits_matchTagEnd _ _ tagFound
    · exact splits_andThen (splits_matchWord _) splits_matchTagEnd _ _ found

theorem splits_matchComment : Splits matchComment :=
  splits_andThen (splits_matchWord _) (splits_blanksThen (splits_andThen (splits_matchWord _)
    (splits_blanksThen (splits_andThen (splits_matchWord _)
      (splits_blanksThen (splits_matchWord _))))))

/-- The opener and what follows it are the whole source. -/
theorem splits_matchOpener (before : Option Char) : Splits (matchOpener before) := by
  intro source split found
  simp only [matchOpener] at found
  split at found
  · next _ tagFound =>
      rw [← Option.some.inj found]
      exact splits_matchTag before _ _ tagFound
  · exact splits_matchComment _ _ found

/-- What stands behind an opener is no longer than the source, so the search ends. -/
theorem matchOpener_shorter {before : Option Char} {source : List Char} {split : Split}
    (found : matchOpener before source = some split) :
    split.2.length ≤ source.length := by
  have whole := splits_matchOpener before source split found
  have := congrArg List.length whole
  simp only [List.length_append] at this
  omega

end OperationCheck.Template
