import OperationCheck.Proofs.Template.Openers
import OperationCheck.Proofs.Template.Places

/-!
Reading goes on afresh behind every block. What is behind the backtick that closes a block is read
as a source of its own, and it never changes the blocks before it. The main statement says that
the blocks of a source are those up to such a backtick and then those behind it, which are moved to
where it ends.
-/

namespace OperationCheck.Template

open OperationCheck.Text

/-- A position in a text that begins at a place. Only the first line of the text begins in the
middle of a line. -/
def moved (place position : Position) : Position :=
  if position.line = 0 then ⟨place.line, place.column + position.column⟩
  else ⟨place.line + position.line, position.column⟩

def Block.moved (place : Position) (block : Block) : Block :=
  ⟨Template.moved place block.position, block.text⟩

theorem moved_start (place : Position) : moved place .start = place := rfl

/-- Going past a character and moving may be done in either order. -/
theorem next_moved (place position : Position) (c : Char) :
    (moved place position).next c = moved place (position.next c) := by
  unfold Position.next
  by_cases feed : c = '\n'
  · by_cases first : position.line = 0 <;> simp [moved, feed, first, Nat.add_assoc]
  · by_cases first : position.line = 0 <;> simp [moved, feed, first, Nat.add_assoc]

/-- Going past a text and moving may be done in either order. -/
theorem after_moved (place position : Position) (text : List Char) :
    (moved place position).after text = moved place (position.after text) := by
  induction text generalizing position with
  | nil => rfl
  | cons c text ih => rw [Position.after_cons, Position.after_cons, next_moved, ih]

/-- An opener ends in a backtick, so a source with one holds a backtick. -/
theorem backtick_mem_of_matchOpener {before : Option Char} {source opening inside : List Char}
    (opens : matchOpener before source = some (opening, inside)) : '\x60' ∈ source := by
  obtain ⟨taken, (isEnd : opening = taken ++ ['\x60'])⟩ := endsOpener_matchOpener before _ _ opens
  have whole : opening ++ inside = source := splits_matchOpener before _ _ opens
  rw [← whole, isEnd]
  simp

section reading

variable {before : Option Char} {source opening inside text remaining : List Char}

/-- Where nothing opens, the search goes on one character further. -/
theorem blocksFrom_of_none {c : Char} (position : Position)
    (noOpener : matchOpener before (c :: source) = none) :
    blocksFrom before position (c :: source) = blocksFrom (some c) (position.next c) source := by
  rw [blocksFrom]
  split
  · rfl
  · next found => cases noOpener.symm.trans found

/-- A template that never closes ends the search. -/
theorem blocksFrom_of_unread (position : Position)
    (opens : matchOpener before source = some (opening, inside)) (unread : read inside = none) :
    blocksFrom before position source = [] := by
  cases source with
  | nil => rw [blocksFrom]
  | cons c source =>
      rw [blocksFrom]
      split
      · next none => cases opens.symm.trans none
      · next found =>
          cases opens.symm.trans found
          split
          · rfl
          · next isRead => cases unread.symm.trans isRead

/-- A template that closes gives its block, and the search goes on behind the closing backtick. -/
theorem blocksFrom_of_read (position : Position)
    (opens : matchOpener before source = some (opening, inside))
    (isRead : read inside = some (text, remaining)) :
    blocksFrom before position source =
      ⟨position.after opening, text⟩ ::
        blocksFrom (some '\x60') (((position.after opening).after text).next '\x60')
          remaining := by
  cases source with
  | nil => cases backtick_mem_of_matchOpener opens
  | cons c source =>
      rw [blocksFrom]
      split
      · next none => cases opens.symm.trans none
      · next found =>
          cases opens.symm.trans found
          split
          · next unread => cases isRead.symm.trans unread
          · next again =>
              cases isRead.symm.trans again
              rfl

end reading

/-- Moving the beginning of a source moves its blocks. -/
theorem blocksFrom_moved (place : Position) (before : Option Char) (position : Position)
    (source : List Char) :
    blocksFrom before (moved place position) source =
      (blocksFrom before position source).map (Block.moved place) := by
  fun_induction blocksFrom before position source with
  | case1 => rw [blocksFrom, List.map_nil]
  | case2 before position c rest noOpener ih =>
      rw [blocksFrom_of_none _ noOpener, next_moved, ih]
  | case3 before position c rest opening inside opens unread =>
      rw [blocksFrom_of_unread _ opens unread, List.map_nil]
  | case4 before position c rest opening inside opens text remaining isRead start ih =>
      rw [blocksFrom_of_read _ opens isRead, after_moved, after_moved, next_moved, ih,
        List.map_cons]
      rfl

/-- All texts of the language end at their first backtick. -/
def EndsAtBacktick (language : List Char → Prop) : Prop :=
  ∀ text, language text → ∃ taken, text = taken ++ ['\x60'] ∧ '\x60' ∉ taken

/-- The backtick alone ends at the first backtick. -/
theorem endsAtBacktick_backtick : EndsAtBacktick (· = ['\x60']) :=
  fun _ same => ⟨[], same, List.not_mem_nil⟩

/-- A word without a backtick in front of what ends at the first backtick does not change that. -/
theorem EndsAtBacktick.behind {language : List Char → Prop} (ends : EndsAtBacktick language)
    {word : List Char} (plain : '\x60' ∉ word) : EndsAtBacktick (Behind word language) := by
  rintro _ ⟨ending, isEnding, rfl⟩
  obtain ⟨taken, rfl, notTaken⟩ := ends ending isEnding
  refine ⟨word ++ taken, (List.append_assoc _ _ _).symm, fun member => ?_⟩
  exact (List.mem_append.1 member).elim plain notTaken

/-- Blanks in front of what ends at the first backtick do not change that. -/
theorem EndsAtBacktick.behindBlanks {language : List Char → Prop}
    (ends : EndsAtBacktick language) : EndsAtBacktick (BehindBlanks language) := by
  rintro _ ⟨blanks, ending, areBlank, isEnding, rfl⟩
  obtain ⟨taken, rfl, notTaken⟩ := ends ending isEnding
  refine ⟨blanks ++ taken, (List.append_assoc _ _ _).symm, fun member => ?_⟩
  rcases List.mem_append.1 member with isBlank | isTaken
  · exact absurd (List.all_eq_true.1 areBlank _ isBlank) (by decide)
  · exact notTaken isTaken

/-- What stands behind the name of a tag ends at the first backtick. -/
theorem endsAtBacktick_tagEnd : EndsAtBacktick IsTagEnd := by
  refine EndsAtBacktick.behindBlanks fun text isEnd => ?_
  rcases isEnd with isCall | isBacktick
  · exact endsAtBacktick_backtick.behindBlanks.behind (by decide) text isCall
  · exact endsAtBacktick_backtick text isBacktick

/-- The backtick of an opener is its last character and its only one. -/
theorem endsAtBacktick_opener (before : List Char) : EndsAtBacktick (IsOpener before) := by
  rintro text (⟨-, isShort | isLong⟩ | isComment)
  · exact endsAtBacktick_tagEnd.behind (by decide) text isShort
  · exact endsAtBacktick_tagEnd.behind (by decide) text isLong
  · exact ((endsAtBacktick_backtick.behindBlanks.behind (by decide)).behindBlanks.behind
      (by decide)).behindBlanks.behind (by decide) text isComment

/-- An opener does not go beyond a backtick, so what follows one does not matter. -/
theorem matchOpener_append (before : Option Char) {source : List Char}
    (backtick : '\x60' ∈ source) (more : List Char) :
    matchOpener before (source ++ more) =
      (matchOpener before source).map fun split => (split.1, split.2 ++ more) := by
  have last : before = before.toList.getLast? := by cases before <;> rfl
  rw [last]
  have recognizes := recognizes_matchOpener before.toList
  refine Option.ext fun split => ?_
  rw [recognizes, Option.map_eq_some_iff]
  constructor
  · rintro ⟨whole, isOpener⟩
    obtain ⟨taken, same, plain⟩ := endsAtBacktick_opener _ _ isOpener
    rcases List.append_eq_append_iff.1 whole with ⟨behind, isSource, tail⟩ | ⟨beyond, isTaken, tail⟩
    · exact ⟨(split.1, behind), (recognizes _ _).2 ⟨isSource.symm, isOpener⟩,
        Prod.ext rfl tail.symm⟩
    · -- An opener that went beyond the source would have two backticks.
      rcases List.eq_nil_or_concat beyond with rfl | ⟨front, c, rfl⟩
      · rw [List.append_nil] at isTaken
        exact ⟨(split.1, []), (recognizes _ _).2 ⟨by rw [isTaken, List.append_nil], isOpener⟩,
          Prod.ext rfl tail⟩
      · rw [same, List.concat_eq_append, ← List.append_assoc] at isTaken
        have isFront := (List.append_inj' isTaken rfl).1
        exact absurd (isFront ▸ List.mem_append_left front backtick) plain
  · rintro ⟨inner, found, rfl⟩
    obtain ⟨whole, isOpener⟩ := (recognizes _ _).1 found
    exact ⟨by rw [← List.append_assoc, whole], isOpener⟩

/-- What follows a closing backtick does not matter for the body before it. -/
theorem scan_append (mode : Mode) (taken source : List Char) {text remaining : List Char}
    (found : scan mode taken source = some (text, remaining)) (more : List Char) :
    scan mode taken (source ++ more) = some (text, remaining ++ more) := by
  fun_induction scan mode taken source with
  | case1 => cases found
  | case2 taken rest ih => exact ih found
  | case3 taken rest =>
      simp only [Option.some.injEq, Prod.mk.injEq] at found
      rw [List.cons_append, scan, if_pos rfl, found.1, found.2]
      exact fun _ dollar => absurd dollar (by decide)
  | case4 taken rest _ _ ih =>
      rw [List.cons_append, scan, if_neg (by decide), if_pos rfl]
      · exact ih found
      · exact fun _ dollar => absurd dollar (by decide)
  | case5 taken c rest noInterpolation noBacktick noBackslash ih =>
      rw [List.cons_append, scan, if_neg noBacktick, if_neg noBackslash]
      · exact ih found
      · intro after dollar opens
        cases rest with
        | nil => cases found
        | cons first others =>
            rw [List.cons_append, List.cons.injEq] at opens
            exact noInterpolation others dollar (by rw [opens.1])
  | case6 taken c rest ih =>
      rw [List.cons_append, scan]
      exact ih found
  | case7 depth taken c rest ih =>
      rw [List.cons_append, scan]
      exact ih found

/-- A template that closes is read the same whatever more follows. -/
theorem read_append {source text remaining : List Char}
    (found : read source = some (text, remaining)) (more : List Char) :
    read (source ++ more) = some (text, remaining ++ more) := scan_append .raw [] source found more

/-- The last character of a source is the backtick that closes its last block. -/
inductive ClosesLast : Option Char → List Char → Prop where
  | skip {before : Option Char} {c : Char} {source : List Char}
      (noOpener : matchOpener before (c :: source) = none) (closes : ClosesLast (some c) source) :
      ClosesLast before (c :: source)
  | last {before : Option Char} {source opening inside text : List Char}
      (opens : matchOpener before source = some (opening, inside))
      (isRead : read inside = some (text, [])) : ClosesLast before source
  | block {before : Option Char} {source opening inside text remaining : List Char}
      (opens : matchOpener before source = some (opening, inside))
      (isRead : read inside = some (text, remaining))
      (closes : ClosesLast (some '\x60') remaining) : ClosesLast before source

/-- A source whose last template closes at its end holds a backtick. -/
theorem ClosesLast.backtick_mem {before : Option Char} {source : List Char}
    (closes : ClosesLast before source) : '\x60' ∈ source := by
  induction closes with
  | skip _ _ ih => exact List.mem_cons_of_mem _ ih
  | last opens => exact backtick_mem_of_matchOpener opens
  | block opens => exact backtick_mem_of_matchOpener opens

/-- A block that was read leads behind its closing backtick. -/
theorem after_of_read {before : Option Char} {source opening inside text remaining : List Char}
    (opens : matchOpener before source = some (opening, inside))
    (isRead : read inside = some (text, remaining)) (position : Position) :
    (((position.after opening).after text).next '\x60').after remaining =
      position.after source := by
  have whole : opening ++ inside = source := splits_matchOpener before _ _ opens
  obtain ⟨body, rfl, -, keeps⟩ := read_sound isRead
  rw [← whole, Position.after_append, Position.after_append, Position.after_cons,
    after_keepsPlace keeps]

/-- What follows the last block of a source is read on its own. -/
theorem ClosesLast.blocksFrom_append {before : Option Char} {source : List Char}
    (closes : ClosesLast before source) (position : Position) (more : List Char) :
    blocksFrom before position (source ++ more) =
      blocksFrom before position source ++
        blocksFrom (some '\x60') (position.after source) more := by
  induction closes generalizing position with
  | @skip before c source noOpener closes ih =>
      have noOther : matchOpener before (c :: (source ++ more)) = none := by
        have same := matchOpener_append before
          (List.mem_cons_of_mem c closes.backtick_mem) more
        rwa [noOpener] at same
      rw [List.cons_append, blocksFrom_of_none _ noOther, blocksFrom_of_none _ noOpener, ih,
        Position.after_cons]
  | @last before source opening inside text opens isRead =>
      have opensWhole := matchOpener_append before (backtick_mem_of_matchOpener opens) more
      rw [opens, Option.map_some] at opensWhole
      have readWhole := read_append isRead more
      rw [List.nil_append] at readWhole
      rw [blocksFrom_of_read _ opensWhole readWhole, blocksFrom_of_read _ opens isRead,
        ← after_of_read opens isRead position, blocksFrom]
      rfl
  | @block before source opening inside text remaining opens isRead closes ih =>
      have opensWhole := matchOpener_append before (backtick_mem_of_matchOpener opens) more
      rw [opens, Option.map_some] at opensWhole
      rw [blocksFrom_of_read _ opensWhole (read_append isRead more),
        blocksFrom_of_read _ opens isRead, ih, after_of_read opens isRead]
      rfl

/-- A backtick and the beginning of a text are both word boundaries. -/
theorem matchOpener_backtick (source : List Char) :
    matchOpener (some '\x60') source = matchOpener none source := by
  have noWord : (some '\x60').any Unicode.isWord = (none : Option Char).any Unicode.isWord :=
    Unicode.isWord_grave
  simp only [matchOpener, matchTag, noWord]

/-- The search behind a closing backtick is that at the start of a source. -/
theorem blocksFrom_backtick (position : Position) (source : List Char) :
    blocksFrom (some '\x60') position source = blocksFrom none position source := by
  cases source with
  | nil => rw [blocksFrom, blocksFrom]
  | cons c source => rw [blocksFrom, blocksFrom, matchOpener_backtick]

/-- Behind its last block, a source may go on with any text. -/
theorem ClosesLast.blocks_append {source : List Char} (closes : ClosesLast none source)
    (more : List Char) :
    blocks (source ++ more) =
      blocks source ++ (blocks more).map (Block.moved (placeOf source)) := by
  have place : Position.start.after source = placeOf source :=
    (placeOf_append [] source).symm
  rw [blocks, closes.blocksFrom_append, place, blocksFrom_backtick,
    ← moved_start (placeOf source), blocksFrom_moved, moved_start]
  rfl

/-- The backtick that closes a block is enough to read it. -/
theorem read_closed {body text remaining : List Char} (isBody : IsBody body)
    (isRead : read (body ++ '\x60' :: remaining) = some (text, remaining)) :
    read (body ++ ['\x60']) = some (text, []) := by
  obtain ⟨kept, found⟩ := read_complete isBody []
  have same := read_append found remaining
  rw [List.append_assoc, List.singleton_append, List.nil_append, isRead, Option.some.injEq,
    Prod.mk.injEq] at same
  rw [found, same.1]

/-- An opener is found in the part of a source that reaches past its backtick. -/
theorem matchOpener_cut {before : Option Char} {source opening inside : List Char}
    (backtick : '\x60' ∈ source) (more : List Char)
    (opens : matchOpener before (source ++ more) = some (opening, inside ++ more)) :
    matchOpener before source = some (opening, inside) := by
  rw [matchOpener_append before backtick, Option.map_eq_some_iff] at opens
  obtain ⟨split, found, same⟩ := opens
  rw [Prod.mk.injEq] at same
  rw [found, ← same.1, ← List.append_cancel_right same.2]

/-- Where the whole source has no opener, the part that still holds a backtick has none. -/
theorem matchOpener_cut_none {before : Option Char} {source : List Char}
    (backtick : '\x60' ∈ source) (more : List Char)
    (noOpener : matchOpener before (source ++ more) = none) : matchOpener before source = none := by
  rwa [matchOpener_append before backtick, Option.map_eq_none_iff] at noOpener

/-- A block that is read behind an opener is also read without what follows its closing
backtick. -/
theorem cut_of_read {passed source opening inside text remaining : List Char}
    (opens : matchOpener passed.getLast? source = some (opening, inside))
    (isRead : read inside = some (text, remaining)) :
    ∃ body, Encloses (passed ++ source) (passed ++ opening) body remaining ∧
      List.Forall₂ KeepsPlace body text ∧ source = opening ++ (body ++ ['\x60']) ++ remaining ∧
      matchOpener passed.getLast? (opening ++ (body ++ ['\x60'])) =
        some (opening, body ++ ['\x60']) ∧
      read (body ++ ['\x60']) = some (text, []) := by
  have whole : opening ++ inside = source := splits_matchOpener _ _ _ opens
  obtain ⟨body, rfl, encloses, keeps⟩ := encloses_of_read opens isRead
  have split : opening ++ (body ++ ['\x60']) ++ remaining = source := by
    rw [← whole, List.append_assoc, List.append_assoc, List.singleton_append]
  refine ⟨body, encloses, keeps, split.symm, matchOpener_cut (by simp) remaining ?_,
    read_closed encloses.closed isRead⟩
  rw [split, opens, List.append_assoc, List.singleton_append]

/-- The backtick that closes a block ends a beginning of the source which has the blocks up to
this one. -/
theorem blocksFrom_cut (before : Option Char) (position : Position) (source passed : List Char)
    (last : before = passed.getLast?) (reached : position = placeOf passed) {index : Nat}
    {block : Block} (found : (blocksFrom before position source)[index]? = some block) :
    ∃ front body behind upTo, Encloses (passed ++ source) front body behind ∧
      List.Forall₂ KeepsPlace body block.text ∧ block.position = placeOf front ∧
      passed ++ upTo = front ++ body ++ ['\x60'] ∧ source = upTo ++ behind ∧
      ClosesLast before upTo ∧
      blocksFrom before position upTo = (blocksFrom before position source).take (index + 1) := by
  -- The cut is made behind the closing backtick, where no search has looked any further.
  fun_induction blocksFrom before position source generalizing passed index with
  | case1 => cases found
  | case2 before position c rest noOpener ih =>
      obtain ⟨front, body, behind, upTo, encloses, keeps, placed, cut, rfl, closes, same⟩ :=
        ih (passed ++ [c]) (by simp) (by rw [placeOf_concat, reached]) found
      rw [List.append_assoc, List.singleton_append] at encloses cut
      have none := matchOpener_cut_none (List.mem_cons_of_mem c closes.backtick_mem) behind noOpener
      exact ⟨front, body, behind, c :: upTo, encloses, keeps, placed, cut, rfl, .skip none closes,
        (blocksFrom_of_none _ none).trans same⟩
  | case3 => cases found
  | case4 before position c rest opening inside opener text remaining isRead start ih =>
      subst last
      obtain ⟨body, encloses, keeps, enough, opens, closed⟩ := cut_of_read opener isRead
      cases index with
      | zero =>
          rw [List.getElem?_cons_zero, Option.some.injEq] at found
          subst found
          refine ⟨passed ++ opening, body, remaining, opening ++ (body ++ ['\x60']), encloses,
            keeps, by rw [placeOf_append, ← reached], by simp, enough, .last opens closed, ?_⟩
          rw [blocksFrom_of_read _ opens closed, blocksFrom]
          rfl
      | succ index =>
          rw [List.getElem?_cons_succ] at found
          obtain ⟨front, later, behind, upTo, laterEncloses, laterKeeps, placed, cut, rfl, closes,
            same⟩ := ih (passed ++ opening ++ body ++ ['\x60']) (by simp)
              (placeOf_closed reached keeps opening) found
          rw [encloses.split] at laterEncloses
          have opensMore := matchOpener_append passed.getLast? (backtick_mem_of_matchOpener opens) upTo
          rw [opens, Option.map_some] at opensMore
          have readMore := read_append closed upTo
          refine ⟨front, later, behind, opening ++ (body ++ ['\x60']) ++ upTo, laterEncloses,
            laterKeeps, placed, by rw [← cut]; simp only [List.append_assoc], ?_,
            .block opensMore readMore closes, ?_⟩
          · rw [enough, List.append_assoc _ upTo]
          · rw [blocksFrom_of_read _ opensMore readMore, List.take_succ_cons, ← same]
            rfl

/-- Every block closes with a backtick where reading goes on afresh: the blocks of a source are
those of its beginning up to there, and those of the rest, moved to where that beginning ends. With
any other rest, the blocks up to there stay the same. -/
theorem blocks_resume (source : List Char) (index : Nat) (block : Block)
    (found : (blocks source)[index]? = some block) :
    ∃ front body behind, Encloses source front body behind ∧ block.KeepsPlaces front body ∧
      blocks (front ++ body ++ ['\x60']) = (blocks source).take (index + 1) ∧
      blocks source = blocks (front ++ body ++ ['\x60']) ++
        (blocks behind).map (Block.moved (placeOf (front ++ body ++ ['\x60']))) ∧
      ∀ rest, blocks (front ++ body ++ ['\x60'] ++ rest) = (blocks source).take (index + 1) ++
        (blocks rest).map (Block.moved (placeOf (front ++ body ++ ['\x60']))) := by
  obtain ⟨front, body, behind, upTo, encloses, keeps, placed, cut, whole, closes, same⟩ :=
    blocksFrom_cut none .start source [] rfl rfl found
  rw [List.nil_append] at encloses cut
  subst cut
  have same : blocks (front ++ body ++ ['\x60']) = (blocks source).take (index + 1) := same
  refine ⟨front, body, behind, encloses, keepsPlaces_of_keepsPlace keeps placed, same, ?_,
    fun rest => ?_⟩
  · rw [← closes.blocks_append, ← whole]
  · rw [closes.blocks_append, same]

/-- The search between two templates: the first keeps its place, and the second is found as in a
source of its own. -/
theorem blocks_resume_between :
    (blocks "é\ngql\x60a\x60;gql\x60b\x60".toList)[0]? = some ⟨⟨1, 4⟩, ['a']⟩ ∧
    ∃ front body behind, Encloses "é\ngql\x60a\x60;gql\x60b\x60".toList front body behind ∧
      Block.KeepsPlaces ⟨⟨1, 4⟩, ['a']⟩ front body ∧
      blocks (front ++ body ++ ['\x60']) = [⟨⟨1, 4⟩, ['a']⟩] ∧
      blocks "é\ngql\x60a\x60;gql\x60b\x60".toList = blocks (front ++ body ++ ['\x60']) ++
        (blocks behind).map (Block.moved (placeOf (front ++ body ++ ['\x60']))) ∧
      ∀ rest, blocks (front ++ body ++ ['\x60'] ++ rest) = [⟨⟨1, 4⟩, ['a']⟩] ++
        (blocks rest).map (Block.moved (placeOf (front ++ body ++ ['\x60']))) := by
  have found : (blocks "é\ngql\x60a\x60;gql\x60b\x60".toList)[0]? = some ⟨⟨1, 4⟩, ['a']⟩ := by
    decide +kernel
  have upTo : (blocks "é\ngql\x60a\x60;gql\x60b\x60".toList).take 1 = [⟨⟨1, 4⟩, ['a']⟩] := by
    decide +kernel
  have resumed := blocks_resume _ 0 _ found
  rw [upTo] at resumed
  exact ⟨found, resumed⟩

end OperationCheck.Template
