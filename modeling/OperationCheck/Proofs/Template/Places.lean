import OperationCheck.Proofs.Template.Grammar
import OperationCheck.Template.Block

/-!
Places of embedded operations. The main statement says that the text of a block keeps the places
of its characters, so that a place in the positioned text is a place in the source.
-/

namespace OperationCheck.Template

open OperationCheck.Text

/-- A place tells how many line feeds come before it, and how many characters come after the last
one of them. -/
def placeOf (before : List Char) : Position :=
  ⟨before.count '\n', (before.reverse.takeWhile (· ≠ '\n')).length⟩

/-- The place behind one character more is the next place. -/
theorem placeOf_concat (before : List Char) (c : Char) :
    placeOf (before ++ [c]) = (placeOf before).next c := by
  unfold placeOf Position.next
  by_cases feed : c = '\n'
  · simp [feed]
  · simp [feed]

/-- Moving over a text leads to the place behind it. -/
theorem placeOf_append (before text : List Char) :
    placeOf (before ++ text) = (placeOf before).after text := by
  induction text generalizing before with
  | nil => simp
  | cons c text ih =>
      rw [Position.after_cons, ← placeOf_concat, ← ih, List.append_assoc, List.singleton_append]

/-- Blank lines and blank columns lead to their position. -/
theorem placeOf_blanks (position : Position) :
    placeOf (List.replicate position.line '\n' ++ List.replicate position.column ' ') =
      position := by
  have line : (List.replicate position.line '\n' ++ List.replicate position.column ' ').count
      '\n' = position.line := by
    simp [List.count_append, List.count_replicate]
  have column : ((List.replicate position.line '\n' ++ List.replicate position.column ' ').reverse
      |>.takeWhile (· ≠ '\n')).length = position.column := by
    rw [List.reverse_append, List.reverse_replicate, List.reverse_replicate,
      List.takeWhile_append_of_pos (by simp)]
    cases position.line <;> simp [List.replicate_succ]
  rw [placeOf, line, column]

/-- A character that keeps the place of another moves on as that one does. -/
theorem next_keepsPlace {original kept : Char} (keeps : KeepsPlace original kept)
    (position : Position) : position.next kept = position.next original := by
  unfold Position.next
  by_cases feed : original = '\n'
  · rw [if_pos (keeps.1.2 feed), if_pos feed]
  · rw [if_neg fun isFeed => feed (keeps.1.1 isFeed), if_neg feed]

/-- Texts with the same line feeds lead to the same place. -/
theorem after_keepsPlace {body text : List Char} (keeps : List.Forall₂ KeepsPlace body text)
    (position : Position) : position.after text = position.after body := by
  induction keeps generalizing position with
  | nil => rfl
  | cons first _ ih =>
      rw [Position.after_cons, Position.after_cons, next_keepsPlace first]
      exact ih _

/-- Reading goes on at the place behind the backtick that closes a body. -/
theorem placeOf_closed {position : Position} {passed body text : List Char}
    (reached : position = placeOf passed) (keeps : List.Forall₂ KeepsPlace body text)
    (opening : List Char) :
    ((position.after opening).after text).next '\x60' =
      placeOf (passed ++ opening ++ body ++ ['\x60']) := by
  rw [placeOf_concat, placeOf_append, placeOf_append, ← reached, after_keepsPlace keeps]

/-- A matcher whose match ends with a backtick. -/
def EndsOpener (matcher : List Char → Option Split) : Prop :=
  ∀ source split, matcher source = some split → ∃ taken, split.1 = taken ++ ['\x60']

/-- The backtick alone ends an opener. -/
theorem endsOpener_matchBacktick : EndsOpener matchBacktick := by
  intro source split found
  cases source with
  | nil => cases found
  | cons c rest =>
      simp only [matchBacktick, matchWord] at found
      split at found
      · next same =>
          simp only [Option.map_some, Option.some.injEq] at found
          exact ⟨[], by rw [← found, ← same]; rfl⟩
      · cases found

/-- What ends an opener does so behind a word. -/
theorem endsOpener_andThen {next : List Char → Option Split} (ends : EndsOpener next)
    (first : List Char → Option Split) :
    EndsOpener fun source => andThen (first source) next := by
  intro source split found
  simp only [andThen] at found
  split at found
  · cases found
  · next taken rest _ =>
      obtain ⟨inner, innerFound, rfl⟩ := Option.map_eq_some_iff.1 found
      obtain ⟨before, isEnd⟩ := ends rest inner innerFound
      exact ⟨taken ++ before, by rw [isEnd, List.append_assoc]⟩

/-- What ends an opener does so behind blanks. -/
theorem endsOpener_blanksThen {next : List Char → Option Split} (ends : EndsOpener next) :
    EndsOpener (blanksThen next) :=
  endsOpener_andThen ends fun source => some (matchBlanks source)

/-- The end of a tag or of a call ends an opener. -/
theorem endsOpener_matchTagEnd : EndsOpener matchTagEnd := by
  refine endsOpener_blanksThen fun source split found => ?_
  split at found
  · exact endsOpener_andThen (endsOpener_blanksThen endsOpener_matchBacktick) _ _ _ found
  · exact endsOpener_matchBacktick _ _ found

/-- The comment and the backtick behind it end an opener. -/
theorem endsOpener_matchComment : EndsOpener matchComment :=
  endsOpener_andThen (endsOpener_blanksThen (endsOpener_andThen (endsOpener_blanksThen
    (endsOpener_andThen (endsOpener_blanksThen endsOpener_matchBacktick) _)) _)) _

/-- The last character of an opener is a backtick. -/
theorem endsOpener_matchOpener (before : Option Char) : EndsOpener (matchOpener before) := by
  intro source split found
  simp only [matchOpener, matchTag] at found
  split at found
  · next tag tagFound =>
      rw [← Option.some.inj found]
      split at tagFound
      · cases tagFound
      · split at tagFound
        · next short shortFound =>
            rw [← Option.some.inj tagFound]
            exact endsOpener_andThen endsOpener_matchTagEnd _ _ _ shortFound
        · exact endsOpener_andThen endsOpener_matchTagEnd _ _ _ tagFound
  · exact endsOpener_matchComment _ _ found

/-- A body stands in a source behind an opener, whose last character is a backtick, and before
the backtick that closes it. -/
structure Encloses (source front body behind : List Char) : Prop where
  whole : source = front ++ body ++ '\x60' :: behind
  opened : ∃ before opening, front = before ++ opening ++ ['\x60'] ∧
    matchOpener before.getLast? (opening ++ '\x60' :: (body ++ '\x60' :: behind)) =
      some (opening ++ ['\x60'], body ++ '\x60' :: behind)
  closed : IsBody body

/-- The parts an enclosed body cuts the source into are the whole source. -/
theorem Encloses.split {source front body behind : List Char}
    (encloses : Encloses source front body behind) :
    front ++ body ++ ['\x60'] ++ behind = source := by
  rw [encloses.whole, List.append_assoc _ ['\x60'], List.singleton_append]

/-- A block that is read behind an opener has the text of a body which stands there. -/
theorem encloses_of_read {passed source opening inside text remaining : List Char}
    (opens : matchOpener passed.getLast? source = some (opening, inside))
    (isRead : read inside = some (text, remaining)) :
    ∃ body, inside = body ++ '\x60' :: remaining ∧
      Encloses (passed ++ source) (passed ++ opening) body remaining ∧
        List.Forall₂ KeepsPlace body text := by
  have whole : opening ++ inside = source := splits_matchOpener _ _ _ opens
  obtain ⟨taken, (isEnd : opening = taken ++ ['\x60'])⟩ := endsOpener_matchOpener _ _ _ opens
  obtain ⟨body, rfl, isBody, keeps⟩ := read_sound isRead
  refine ⟨body, rfl, ⟨?_, ⟨passed, taken, ?_, ?_⟩, isBody⟩, keeps⟩
  · rw [← whole, List.append_assoc, List.append_assoc]
  · rw [List.append_assoc, ← isEnd]
  · rw [← whole, isEnd, List.append_assoc] at opens
    exact opens

/-- Each block has the text of a body of the source and the place where that body begins. -/
theorem blocksFrom_sound (before : Option Char) (position : Position) (source passed : List Char)
    (last : before = passed.getLast?) (reached : position = placeOf passed)
    {block : Block} (member : block ∈ blocksFrom before position source) :
    ∃ front body behind, Encloses (passed ++ source) front body behind ∧
      List.Forall₂ KeepsPlace body block.text ∧ block.position = placeOf front := by
  fun_induction blocksFrom before position source generalizing passed with
  | case1 => cases member
  | case2 before position c rest noOpener ih =>
      have found := ih (passed ++ [c]) (by simp)
        (by rw [placeOf_concat, reached]) member
      rwa [List.append_assoc] at found
  | case3 => cases member
  | case4 before position c rest opening inside opener text remaining isRead start =>
      rename_i ih
      subst last
      obtain ⟨body, rfl, encloses, keeps⟩ := encloses_of_read opener isRead
      -- The member is the block that was read here, or it comes behind the closing backtick.
      rcases List.mem_cons.1 member with rfl | later
      · exact ⟨passed ++ opening, body, remaining, encloses, keeps,
          by rw [placeOf_append, ← reached]⟩
      · have found := ih (passed ++ opening ++ body ++ ['\x60']) (by simp)
          (placeOf_closed reached keeps opening) later
        rwa [encloses.split] at found

/-- A block keeps the places of a body behind a front. Its text has a character for each one of the
body, which is the same or a space, and line feeds are the same in both. Each character has the
place in the positioned text that it has behind the front. -/
structure Block.KeepsPlaces (block : Block) (front body : List Char) : Prop where
  length : block.text.length = body.length
  characters : ∀ (index : Nat) (inText : index < block.text.length)
    (inBody : index < body.length),
    (block.text[index] = '\n' ↔ body[index] = '\n') ∧
      (body[index] ≠ '\n' → block.text[index] = body[index] ∨ block.text[index] = ' ')
  places : ∃ blanks, block.positioned = blanks ++ block.text ∧
    ∀ index, placeOf (blanks ++ block.text.take index) = placeOf (front ++ body.take index)

/-- A text that keeps the place of each character, put where the body begins, keeps the places of
the body. -/
theorem keepsPlaces_of_keepsPlace {front body : List Char} {block : Block}
    (keeps : List.Forall₂ KeepsPlace body block.text) (placed : block.position = placeOf front) :
    block.KeepsPlaces front body := by
  refine ⟨keeps.length_eq.symm, fun index inText inBody => keeps.get inBody inText,
    List.replicate block.position.line '\n' ++ List.replicate block.position.column ' ', rfl,
    fun index => ?_⟩
  rw [placeOf_append, placeOf_blanks, placeOf_append, placed]
  exact after_keepsPlace (List.forall₂_take index keeps) _

/-- Every block of a source keeps the places of the body that it was read from. -/
theorem blocks_keep_places (source : List Char) (block : Block)
    (member : block ∈ blocks source) :
    ∃ front body behind, Encloses source front body behind ∧ block.KeepsPlaces front body := by
  obtain ⟨front, body, behind, encloses, keeps, placed⟩ :=
    blocksFrom_sound none .start source [] rfl rfl member
  exact ⟨front, body, behind, encloses, keepsPlaces_of_keepsPlace keeps placed⟩

/-- A template with a wide character, an escape and an interpolation over two lines keeps its
places. -/
theorem blocks_keep_places_interpolated :
    (⟨⟨1, 4⟩, "ü \x60   \n  ".toList⟩ : Block) ∈
      blocks "é\ngql\x60ü\\\x60$\x7b\x7b\n\x7d\x7d\x60;".toList ∧
    ∃ front body behind,
      Encloses "é\ngql\x60ü\\\x60$\x7b\x7b\n\x7d\x7d\x60;".toList front body behind ∧
        Block.KeepsPlaces ⟨⟨1, 4⟩, "ü \x60   \n  ".toList⟩ front body := by
  have member : (⟨⟨1, 4⟩, "ü \x60   \n  ".toList⟩ : Block) ∈
      blocks "é\ngql\x60ü\\\x60$\x7b\x7b\n\x7d\x7d\x60;".toList := by
    decide +kernel
  exact ⟨member, blocks_keep_places _ _ member⟩

end OperationCheck.Template
