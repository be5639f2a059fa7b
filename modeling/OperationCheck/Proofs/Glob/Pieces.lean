import OperationCheck.Proofs.Files.Path
import OperationCheck.Proofs.Glob.Reading

/-!
Reading a glob piece by piece. Where every piece between slashes is two stars or a glob of its own,
the tokens of the whole are those of its pieces with joints between them. The main statement gives
the joints.
-/

namespace OperationCheck.Glob

open OperationCheck.Documents OperationCheck.Files

/-- What is behind a bracket does not bear on its ranges. -/
theorem readRanges_append {state : BracketState} {source behind : List Char}
    {ranges : List (Char × Char)} (read : readRanges state source = some (ranges, behind))
    (tail : List Char) : readRanges state (source ++ tail) = some (ranges, behind ++ tail) := by
  fun_induction readRanges state source
  case case1 | case3 | case5 => cases read
  case case2 closes _ =>
    obtain ⟨rfl, rfl⟩ := Prod.mk.inj (Option.some.inj read)
    rw [List.cons_append, readRanges, if_pos closes]
  case case4 state c rest notEnd inRange low _ held isRange above ih =>
    rw [List.cons_append, readRanges, if_neg notEnd, if_pos inRange, isRange]
    dsimp only
    rw [if_neg above]
    exact ih read
  case case6 state c rest notEnd outside isHyphen ih =>
    rw [List.cons_append, readRanges, if_neg notEnd, if_neg outside, if_pos isHyphen]
    exact ih read
  case case7 state c rest single notEnd outside notHyphen ih =>
    rw [List.cons_append, readRanges, if_neg notEnd, if_neg outside, if_neg notHyphen]
    exact ih read

/-- This function reads the ranges of a bracket behind its mark. -/
def readMembers (negated : Bool) (source : List Char) : Option (Bracket × List Char) :=
  (readRanges ⟨[], true, false⟩ source).map fun (ranges, rest) => (⟨negated, ranges⟩, rest)

/-- A bracket is negated by its first character. -/
theorem readBracket_cons (c : Char) (source : List Char) :
    readBracket (c :: source) =
      if c = '!' ∨ c = '^' then readMembers true source else readMembers false (c :: source) := by
  by_cases bang : c = '!'
  · rw [if_pos (.inl bang), bang]
    rfl
  · by_cases caret : c = '^'
    · rw [if_pos (.inr caret), caret]
      rfl
    · rw [if_neg (not_or.2 ⟨bang, caret⟩)]
      unfold readBracket
      split
      next negated rest isMark =>
      split at isMark
      · next same => exact absurd (List.cons.inj same).1 bang
      · next same => exact absurd (List.cons.inj same).1 caret
      · obtain ⟨rfl, rfl⟩ := Prod.mk.inj isMark
        rfl

/-- A bracket is read alike before any text. -/
theorem readBracket_append {source behind : List Char} {bracket : Bracket}
    (read : readBracket source = some (bracket, behind)) (tail : List Char) :
    readBracket (source ++ tail) = some (bracket, behind ++ tail) := by
  have appended {negated : Bool} {text : List Char}
      (isRead : readMembers negated text = some (bracket, behind)) :
      readMembers negated (text ++ tail) = some (bracket, behind ++ tail) := by
    obtain ⟨⟨ranges, rest⟩, inRanges, same⟩ := Option.map_eq_some_iff.1 isRead
    obtain ⟨rfl, rfl⟩ := Prod.mk.inj same
    rw [readMembers, readRanges_append inRanges tail]
    rfl
  cases source with
  | nil => cases read
  | cons c source =>
      rw [List.cons_append, readBracket_cons]
      rw [readBracket_cons] at read
      split at read
      · next isMark =>
          rw [if_pos isMark]
          exact appended read
      · next noMark =>
          rw [if_neg noMark]
          exact appended read

/-- Open braces stand upon tokens that were read before them. The lowest tokens of the whole are
those tokens, and everything above them is the same. -/
inductive Upon (base : List Token) : List (List (List Token) × List Token) → List Token →
    List (List (List Token) × List Token) → List Token → Prop where
  | level (tokens : List Token) : Upon base [] tokens [] (tokens ++ base)
  | braces (branches : List (List Token)) (tokens : List Token)
      {outer wholeOuter : List (List (List Token) × List Token)} {held wholeHeld : List Token}
      (below : Upon base outer held wholeOuter wholeHeld) :
      Upon base ((branches, held) :: outer) tokens ((branches, wholeHeld) :: wholeOuter) tokens

/-- A token is put in front on both sides. -/
theorem Upon.push {base tokens wholeTokens : List Token}
    {outer wholeOuter : List (List (List Token) × List Token)}
    (upon : Upon base outer tokens wholeOuter wholeTokens) (token : Token) :
    Upon base outer (token :: tokens) wholeOuter (token :: wholeTokens) := by
  cases upon with
  | level => exact .level (token :: tokens)
  | braces branches _ below => exact .braces branches _ below

/-- A whole reading carries the reading of a piece upon the tokens before that piece. It may have
read a slash before the piece. -/
structure Carries (base : List Token) (own whole : Reading) : Prop where
  upon : Upon base own.outer own.tokens whole.outer whole.tokens
  clear : own.before ≠ some '/'
  before : own.outer = [] ∧ own.tokens = [] ∨ whole.before = own.before

theorem Carries.push {base : List Token} {own whole : Reading} (carries : Carries base own whole)
    (token : Token) (last : Char) (other : some last ≠ some '/') :
    Carries base (own.push token last) (whole.push token last) :=
  ⟨carries.upon.push token, other, .inr rfl⟩

/-- Two stars are added on both sides. -/
theorem Carries.twoStars {base : List Token} {own whole : Reading}
    (carries : Carries base own whole) : Carries base (own.twoStars '*') (whole.twoStars '*') :=
  (carries.push .anyBytes '*' (by decide)).push .anyBytes '*' (by decide)

theorem Carries.openBraces {base : List Token} {own whole : Reading}
    (carries : Carries base own whole) (last : Char) (other : some last ≠ some '/') :
    Carries base ⟨([], own.tokens) :: own.outer, [], some last⟩
      ⟨([], whole.tokens) :: whole.outer, [], some last⟩ :=
  ⟨.braces [] [] carries.upon, other, .inr rfl⟩

theorem Carries.closeBraces {base : List Token} {own whole next : Reading}
    (carries : Carries base own whole) (closes : own.closeBraces = some next) :
    ∃ after, whole.closeBraces = some after ∧ Carries base next after := by
  obtain ⟨upon, -, -⟩ := carries
  obtain ⟨outer, tokens, before⟩ := own
  obtain ⟨wholeOuter, wholeTokens, wholeBefore⟩ := whole
  have other : some '\x7d' ≠ some '/' := by decide
  cases upon with
  | level => cases closes
  | braces branches _ below =>
      obtain rfl := Option.some.inj closes
      exact ⟨_, rfl, below.push _, other, .inr rfl⟩

theorem Carries.nextBranch {base : List Token} {own whole : Reading}
    (carries : Carries base own whole) : Carries base own.nextBranch whole.nextBranch := by
  have other : some ',' ≠ some '/' := by decide
  have pushed := carries.push (.literal ',') ',' other
  obtain ⟨upon, -, -⟩ := carries
  obtain ⟨outer, tokens, before⟩ := own
  obtain ⟨wholeOuter, wholeTokens, wholeBefore⟩ := whole
  cases upon with
  | level => exact pushed
  | braces branches _ below => exact ⟨.braces _ _ below, other, .inr rfl⟩

/-- Two stars behind a mark of braces take its place when they end their branch. The mark is an
escaped one, because a real mark leaves no token before them. -/
structure EndsBranch (reading : Reading) (c : Char) : Prop where
  behind : reading.tokens ≠ []
  inBraces : reading.outer ≠ []
  mark : reading.before = some '/' ∨ reading.before = some ',' ∨ reading.before = some '\x7b'
  ends : c = ',' ∨ c = '\x7d'

/-- Two stars at the end of a branch stand for all that is behind the slash. -/
theorem readStars_of_endsBranch {reading : Reading} {c : Char} (isEnd : EndsBranch reading c)
    (rest : List Char) :
    readStars reading (c :: rest) = (reading.replaceSlash .trailing '*', c :: rest) := by
  obtain ⟨behind, inBraces, mark, ends⟩ := isEnd
  have someTokens : ¬reading.tokens.isEmpty = true := fun none => behind (List.isEmpty_iff.1 none)
  have someOuter : (!reading.outer.isEmpty) = true :=
    Bool.not_eq_true' _ ▸ List.isEmpty_eq_false_iff.2 inBraces
  have isMark : reading.before = some '/' ∨ (!reading.outer.isEmpty) = true ∧
      (reading.before = some ',' ∨ reading.before = some '\x7b') :=
    mark.imp_right fun isMark => ⟨someOuter, isMark⟩
  unfold readStars
  rw [if_neg someTokens, if_pos isMark]
  rcases ends with rfl | rfl
  · exact if_pos ⟨someOuter, .inl rfl⟩
  · exact if_pos ⟨someOuter, .inr rfl⟩

/-- Otherwise two stars before another character than a slash stand within a name. -/
theorem readStars_within {reading : Reading} {c : Char} (other : c ≠ '/')
    (noEnd : ¬EndsBranch reading c) (rest : List Char) :
    readStars reading (c :: rest) = (reading.twoStars '*', c :: rest) := by
  unfold readStars
  split
  · unfold starsFirst
    split
    · next same => cases same
    · next same => exact absurd (List.cons.inj same).1 other
    · rfl
  · next someTokens =>
      dsimp only
      split
      · next isMark =>
          split
          · next same => cases same
          · next same => exact absurd (List.cons.inj same).1 other
          · next same =>
              obtain ⟨rfl, rfl⟩ := List.cons.inj same
              refine if_neg fun ends => noEnd ?_
              exact ⟨fun none => someTokens (List.isEmpty_iff.2 none),
                List.isEmpty_eq_false_iff.1 (by simpa using ends.1),
                isMark.imp_right And.right, ends.2⟩
      · rfl

/-- At the end of a source, two stars behind another character than a slash stand within a name. -/
theorem readStars_level {reading : Reading} (behind : reading.tokens ≠ [])
    (level : reading.outer = []) (clear : reading.before ≠ some '/') (rest : List Char) :
    readStars reading rest = (reading.twoStars '*', rest) := by
  have someTokens : ¬reading.tokens.isEmpty = true := fun none => behind (List.isEmpty_iff.1 none)
  unfold readStars
  rw [if_neg someTokens]
  refine if_neg fun isMark => ?_
  rcases isMark with isSlash | ⟨inBraces, -⟩
  · exact clear isSlash
  · rw [level] at inBraces
    cases inBraces

/-- Braces are open on both sides or on none. -/
theorem Upon.outer_eq_nil_iff {base tokens wholeTokens : List Token}
    {outer wholeOuter : List (List (List Token) × List Token)}
    (upon : Upon base outer tokens wholeOuter wholeTokens) : wholeOuter = [] ↔ outer = [] := by
  cases upon with
  | level => exact Iff.rfl
  | braces => exact ⟨nofun, nofun⟩

/-- Within braces, the tokens of a branch are the same. -/
theorem Upon.tokens_eq {base tokens wholeTokens : List Token}
    {outer wholeOuter : List (List (List Token) × List Token)}
    (upon : Upon base outer tokens wholeOuter wholeTokens) (inBraces : outer ≠ []) :
    wholeTokens = tokens := by
  cases upon with
  | level => exact absurd rfl inBraces
  | braces => rfl

/-- Outside of braces, the tokens stand upon their base. -/
theorem Upon.tokens_of_level {base tokens wholeTokens : List Token}
    {outer wholeOuter : List (List (List Token) × List Token)}
    (upon : Upon base outer tokens wholeOuter wholeTokens) (level : outer = []) :
    wholeTokens = tokens ++ base := by
  cases upon with
  | level => rfl
  | braces => cases level

/-- There are tokens on the whole when there are some above the base. -/
theorem Upon.tokens_ne_nil {base tokens wholeTokens : List Token}
    {outer wholeOuter : List (List (List Token) × List Token)}
    (upon : Upon base outer tokens wholeOuter wholeTokens) (behind : tokens ≠ []) :
    wholeTokens ≠ [] := by
  cases upon with
  | level => exact fun none => behind (List.append_eq_nil_iff.1 none).1
  | braces => exact behind

/-- A branch ends on both sides or on none. -/
theorem Carries.endsBranch_iff {base : List Token} {own whole : Reading}
    (carries : Carries base own whole) (c : Char) : EndsBranch whole c ↔ EndsBranch own c := by
  obtain ⟨upon, -, before⟩ := carries
  have same (inBraces : own.outer ≠ []) : whole.tokens = own.tokens ∧ whole.before = own.before :=
    ⟨upon.tokens_eq inBraces, before.resolve_left fun level => inBraces level.1⟩
  constructor
  · rintro ⟨behind, inBraces, mark, ends⟩
    have ownBraces := fun none => inBraces (upon.outer_eq_nil_iff.2 none)
    obtain ⟨sameTokens, sameBefore⟩ := same ownBraces
    exact ⟨sameTokens ▸ behind, ownBraces, sameBefore ▸ mark, ends⟩
  · rintro ⟨behind, inBraces, mark, ends⟩
    obtain ⟨sameTokens, sameBefore⟩ := same inBraces
    exact ⟨sameTokens.symm ▸ behind, fun none => inBraces (upon.outer_eq_nil_iff.1 none),
      sameBefore.symm ▸ mark, ends⟩

/-- A slash at the end of a branch is replaced on both sides. -/
theorem Carries.replaceSlash {base : List Token} {own whole : Reading}
    (carries : Carries base own whole) {c : Char} (isEnd : EndsBranch own c) (token : Token) :
    Carries base (own.replaceSlash token '*') (whole.replaceSlash token '*') := by
  have other : some '*' ≠ some '/' := by decide
  obtain ⟨behind, inBraces, -, -⟩ := isEnd
  obtain ⟨upon, -, -⟩ := carries
  obtain ⟨outer, tokens, before⟩ := own
  obtain ⟨wholeOuter, wholeTokens, wholeBefore⟩ := whole
  cases upon with
  | level => exact absurd rfl inBraces
  | braces branches _ below =>
      cases tokens with
      | nil => exact absurd rfl behind
      | cons last tokens => cases last <;> exact ⟨.braces _ _ below, other, .inr rfl⟩

/-- Replacing a slash opens no braces. -/
theorem replaceSlash_outer (reading : Reading) (token : Token) (last : Char) :
    (reading.replaceSlash token last).outer = reading.outer := by
  unfold Reading.replaceSlash
  split <;> rfl

theorem readStars_outer (reading : Reading) (rest : List Char) :
    (readStars reading rest).1.outer = reading.outer := by
  obtain ⟨-, ⟨last, leads⟩ | stars | ⟨token, last, -, replaces⟩⟩ := readStars_cases reading rest
  · rw [leads, Reading.push]
  · rw [stars, Reading.twoStars, Reading.push, Reading.push]
  · rw [replaces, replaceSlash_outer]

/-- Two stars are read alike upon other tokens, unless they are a whole piece. -/
theorem Carries.readStars {base : List Token} {own whole : Reading}
    (carries : Carries base own whole) {rest : List Char} (noSlash : '/' ∉ rest)
    (closed : rest = [] → own.outer = []) (more : own.outer = [] ∧ own.tokens = [] → rest ≠ [])
    (tail : List Char) : ∃ after,
      Glob.readStars whole (rest ++ tail) = (after, (Glob.readStars own rest).2 ++ tail) ∧
        Carries base (Glob.readStars own rest).1 after := by
  cases rest with
  | nil =>
      have level := closed rfl
      have behind : own.tokens ≠ [] := fun none => more ⟨level, none⟩ rfl
      have before := carries.before.resolve_left fun none => behind none.2
      rw [readStars_level behind level carries.clear, readStars_level
        (carries.upon.tokens_ne_nil behind) (carries.upon.outer_eq_nil_iff.2 level)
        (before ▸ carries.clear)]
      exact ⟨_, rfl, carries.twoStars⟩
  | cons c rest =>
      have other : c ≠ '/' := fun same => noSlash (same ▸ List.mem_cons_self)
      by_cases isEnd : EndsBranch own c
      · rw [List.cons_append, readStars_of_endsBranch isEnd,
          readStars_of_endsBranch ((carries.endsBranch_iff c).2 isEnd)]
        exact ⟨_, rfl, carries.replaceSlash isEnd .trailing⟩
      · rw [List.cons_append, readStars_within other isEnd,
          readStars_within other (mt (carries.endsBranch_iff c).1 isEnd)]
        exact ⟨_, rfl, carries.twoStars⟩

/-- A single star is a token of its own. -/
theorem readToken_star {rest : List Char} (single : ∀ others, rest ≠ '*' :: others)
    (lenient : Bool) (reading : Reading) :
    readToken lenient reading '*' rest = some (reading.push .anyBytes '*', rest) := by
  simp only [readToken]

/-- A character without a meaning stands for itself. -/
theorem readToken_literal {c : Char}
    (plain : c ∉ ['?', '*', '[', '\x7b', '\x7d', ',', '\\']) (lenient : Bool) (reading : Reading)
    (rest : List Char) :
    readToken lenient reading c rest = some (reading.push (.literal c) c, rest) := by
  unfold readToken
  split
  all_goals first | rfl | exact absurd (by decide) plain

/-- One star or two are read alike upon other tokens. -/
theorem Carries.step_star {base : List Token} {own whole next : Reading}
    (carries : Carries base own whole) {rest behind tail : List Char}
    (isToken : readToken false own '*' rest = some (next, behind)) (noSlash : '/' ∉ '*' :: rest)
    (closed : behind = [] → next.outer = [])
    (more : own.outer = [] ∧ own.tokens = [] → '*' :: rest ≠ ['*', '*'])
    (noStar : ∀ others, tail ≠ '*' :: others) :
    ∃ after, readToken false whole '*' (rest ++ tail) = some (after, behind ++ tail) ∧
      Carries base next after := by
  by_cases second : ∃ others, rest = '*' :: others
  · obtain ⟨others, rfl⟩ := second
    have stars : Glob.readStars own others = (next, behind) := Option.some.inj isToken
    have inside : '/' ∉ others := fun member =>
      noSlash (List.mem_cons_of_mem _ (List.mem_cons_of_mem _ member))
    have level (none : others = []) : own.outer = [] := by
      subst none
      rw [← readStars_outer own [], stars]
      have isRest := (readStars_cases own []).1
      rw [stars] at isRest
      exact closed (List.suffix_nil.1 isRest)
    obtain ⟨after, read, carried⟩ :=
      carries.readStars inside level (fun level none => more level (none ▸ rfl)) tail
    rw [stars] at read carried
    exact ⟨after, congrArg some read, carried⟩
  · have single (others : List Char) : rest ≠ '*' :: others := fun same => second ⟨others, same⟩
    rw [readToken_star single] at isToken
    obtain ⟨rfl, rfl⟩ := Prod.mk.inj (Option.some.inj isToken)
    refine ⟨_, readToken_star (fun others same => ?_) false whole,
      carries.push .anyBytes _ (by decide)⟩
    rcases List.append_eq_cons_iff.1 same with ⟨-, isTail⟩ | ⟨front, isRest, -⟩
    · exact noStar others isTail
    · exact single front isRest

/-- A token is read alike upon other tokens. -/
theorem Carries.step {base : List Token} {own whole next : Reading}
    (carries : Carries base own whole) {c : Char} {rest behind tail : List Char}
    (isToken : readToken false own c rest = some (next, behind)) (noSlash : '/' ∉ c :: rest)
    (closed : behind = [] → next.outer = [])
    (more : own.outer = [] ∧ own.tokens = [] → c :: rest ≠ ['*', '*'])
    (noStar : ∀ others, tail ≠ '*' :: others) :
    ∃ after, readToken false whole c (rest ++ tail) = some (after, behind ++ tail) ∧
      Carries base next after := by
  have clear : some c ≠ some '/' := fun same =>
    noSlash (Option.some.inj same ▸ List.mem_cons_self)
  unfold readToken at isToken
  split at isToken
  · obtain ⟨rfl, rfl⟩ := Prod.mk.inj (Option.some.inj isToken)
    exact ⟨_, rfl, carries.push .anyByte _ clear⟩
  · exact carries.step_star isToken noSlash closed more noStar
  · split at isToken
    · next isBracket =>
        obtain ⟨rfl, rfl⟩ := Prod.mk.inj (Option.some.inj isToken)
        refine ⟨_, ?_, carries.push _ ']' (by decide)⟩
        simp only [readToken, readBracket_append isBracket tail]
    · cases isToken
  · obtain ⟨rfl, rfl⟩ := Prod.mk.inj (Option.some.inj isToken)
    exact ⟨_, rfl, carries.openBraces _ clear⟩
  · obtain ⟨closedReading, closes, same⟩ := Option.map_eq_some_iff.1 isToken
    obtain ⟨rfl, rfl⟩ := Prod.mk.inj same
    obtain ⟨after, wholeCloses, carried⟩ := carries.closeBraces closes
    refine ⟨after, ?_, carried⟩
    change whole.closeBraces.map _ = _
    rw [wholeCloses]
    rfl
  · obtain ⟨rfl, rfl⟩ := Prod.mk.inj (Option.some.inj isToken)
    exact ⟨_, rfl, carries.nextBranch⟩
  · split at isToken
    · next escaped rest =>
        obtain ⟨rfl, rfl⟩ := Prod.mk.inj (Option.some.inj isToken)
        exact ⟨_, rfl, carries.push _ escaped fun same => noSlash
          (Option.some.inj same ▸ List.mem_cons_of_mem _ List.mem_cons_self)⟩
    · cases isToken
  · obtain ⟨rfl, rfl⟩ := Prod.mk.inj (Option.some.inj isToken)
    refine ⟨_, readToken_literal ?_ _ _ _, carries.push _ _ clear⟩
    simp_all

/-- A reading of more than nothing begins with one token. -/
theorem Reads.of_cons {reading last : Reading} {c : Char} {rest : List Char}
    (reads : Reads reading (c :: rest) last) :
    ∃ next behind, readToken false reading c rest = some (next, behind) ∧
      Reads next behind last := by
  cases reads with
  | token isToken others => exact ⟨_, _, isToken, others⟩

/-- Behind a step, tokens or open braces have been read. -/
theorem Step.started {reading next : Reading} {source behind : List Char}
    (step : Step reading source next behind) : ¬(next.outer = [] ∧ next.tokens = []) := by
  rintro ⟨noOuter, noTokens⟩
  cases step with
  | push => cases noTokens
  | stars rest =>
      obtain ⟨-, ⟨last, leads⟩ | stars | ⟨token, last, -, replaces⟩⟩ := readStars_cases reading rest
      · rw [leads] at noTokens
        cases noTokens
      · rw [stars] at noTokens
        cases noTokens
      · rw [replaces] at noTokens
        unfold Reading.replaceSlash at noTokens
        split at noTokens
        · next isTokens => cases isTokens ▸ noTokens
        · next isTokens => cases isTokens ▸ noTokens
        · cases noTokens
        · cases noTokens
  | openBraces => cases noOuter
  | closeBraces c rest closes =>
      obtain ⟨outer, tokens, before⟩ := reading
      cases outer with
      | nil => cases closes
      | cons =>
          obtain rfl := Option.some.inj closes
          cases noTokens
  | nextBranch =>
      obtain ⟨outer, tokens, before⟩ := reading
      cases outer with
      | nil => cases noTokens
      | cons => cases noOuter

/-- The whole reading passes a piece and carries what the piece is read as. -/
theorem Carries.passes {base : List Token} {own whole ownLast last : Reading}
    {piece tail : List Char} (carries : Carries base own whole) (reads : Reads own piece ownLast)
    (closed : ownLast.outer = []) (noSlash : '/' ∉ piece)
    (more : own.outer = [] ∧ own.tokens = [] → piece ≠ ['*', '*'])
    (noStar : ∀ others, tail ≠ '*' :: others) (wholeReads : Reads whole (piece ++ tail) last) :
    ∃ middle, Carries base ownLast middle ∧ Reads middle tail last := by
  induction reads generalizing whole with
  | done => exact ⟨whole, carries, wholeReads⟩
  | @token own next ownLast c rest behind isToken others ih =>
      have isRest := (step_of_readToken isToken).isRest
      have ends (none : behind = []) : next.outer = [] := by
        subst none
        cases others
        exact closed
      obtain ⟨after, wholeToken, carried⟩ := carries.step isToken noSlash ends more noStar
      obtain ⟨_, _, isSame, wholeOthers⟩ := wholeReads.of_cons
      obtain ⟨rfl, rfl⟩ := Prod.mk.inj (Option.some.inj (wholeToken.symm.trans isSame))
      exact ih carried closed (fun member => noSlash (isRest.mem member))
        (fun none => absurd none (step_of_readToken isToken).started) wholeOthers

/-- A joint stands between the pieces of a glob. It is the slash behind a piece, or two stars with
the slashes around them. Nothing stands before the first piece. -/
inductive Joint where
  | start
  | leading
  | slash
  | between

def Joint.tokens : Joint → List Token
  | .start => []
  | .leading => [.leading]
  | .slash => [.literal '/']
  | .between => [.between]

/-- Two stars behind a joint make it cross directories. -/
def Joint.crossing : Joint → Joint
  | .start | .leading => .leading
  | .slash | .between => .between

/-- Two stars at the end of a glob stand for anything below a directory. -/
def Joint.ending : Joint → Token
  | .start | .leading => .leading
  | .slash | .between => .trailing

/-- The tokens of a glob are those of its pieces with joints between them. -/
inductive Joined : Joint → List String → List Token → Prop where
  | ending (joint : Joint) : Joined joint ["**"] [joint.ending]
  | crossing {joint : Joint} {pieces : List String} {tokens : List Token}
      (others : Joined joint.crossing pieces tokens) : Joined joint ("**" :: pieces) tokens
  | last (joint : Joint) {piece : String} {own : Glob} (isOwn : parse? piece = some own)
      (single : piece ≠ "**") : Joined joint [piece] (joint.tokens ++ own.tokens)
  | piece (joint : Joint) {piece : String} {pieces : List String} {own : Glob}
      {tokens : List Token} (isOwn : parse? piece = some own) (single : piece ≠ "**")
      (others : Joined .slash pieces tokens) :
      Joined joint (piece :: pieces) (joint.tokens ++ own.tokens ++ tokens)

/-- A reading stands behind a joint, where a piece begins. -/
structure Behind (joint : Joint) (front : List Token) (reading : Reading) : Prop where
  level : reading.outer = []
  tokens : reading.tokens = joint.tokens ++ front
  begins : joint = .start → front = [] ∧ reading.before = none
  slash : joint ≠ .start → reading.before = some '/'

/-- What is behind a joint is carried by the joint and what is in front. -/
theorem Behind.carries {joint : Joint} {front : List Token} {reading : Reading}
    (behind : Behind joint front reading) :
    Carries (joint.tokens ++ front) ⟨[], [], none⟩ reading := by
  obtain ⟨level, tokens, -, -⟩ := behind
  obtain ⟨outer, tokens', before⟩ := reading
  subst level
  subst tokens
  exact ⟨.level [], by decide, .inl ⟨rfl, rfl⟩⟩

/-- A piece adds its own tokens, whatever is behind it. -/
theorem Behind.passes {joint : Joint} {front : List Token} {reading last : Reading}
    (behind : Behind joint front reading) {piece : String} {own : Glob}
    (isOwn : parse? piece = some own) (single : piece ≠ "**") (noSlash : '/' ∉ piece.toList)
    {tail : List Char} (noStar : ∀ others, tail ≠ '*' :: others)
    (reads : Reads reading (piece.toList ++ tail) last) :
    ∃ middle : Reading, middle.outer = [] ∧
      middle.tokens = own.tokens.reverse ++ (joint.tokens ++ front) ∧ Reads middle tail last := by
  obtain ⟨ownLast, ownReads, closed, isTokens⟩ := reads_of_parse isOwn
  have more : piece.toList ≠ ['*', '*'] := fun same => single (String.toList_inj.1 same)
  obtain ⟨middle, carried, others⟩ :=
    behind.carries.passes ownReads closed noSlash (fun _ => more) noStar reads
  rw [isTokens, List.reverse_reverse]
  exact ⟨middle, carried.upon.outer_eq_nil_iff.2 closed, carried.upon.tokens_of_level closed, others⟩

/-- A piece and the slash behind it lead to the next piece. -/
theorem Behind.slash_passed {joint : Joint} {front : List Token} {reading last : Reading}
    (behind : Behind joint front reading) {piece : String} {own : Glob}
    (isOwn : parse? piece = some own) (single : piece ≠ "**") (noSlash : '/' ∉ piece.toList)
    {rest : List Char} (reads : Reads reading (piece.toList ++ '/' :: rest) last) :
    ∃ next, Behind .slash (own.tokens.reverse ++ (joint.tokens ++ front)) next ∧
      Reads next rest last := by
  obtain ⟨middle, level, ownTokens, reads⟩ := behind.passes isOwn single noSlash (by nofun) reads
  obtain ⟨next, source, isToken, reads⟩ := reads.of_cons
  obtain ⟨rfl, rfl⟩ := Prod.mk.inj (Option.some.inj isToken)
  exact ⟨middle.push (.literal '/') '/', ⟨level, congrArg _ ownTokens, nofun, fun _ => rfl⟩, reads⟩

/-- Two stars are read as such. -/
theorem Reads.of_stars {reading last : Reading} {rest : List Char}
    (reads : Reads reading ("**".toList ++ rest) last) :
    Reads (readStars reading rest).1 (readStars reading rest).2 last := by
  change Reads reading ('*' :: '*' :: rest) last at reads
  obtain ⟨next, behind, isToken, others⟩ := reads.of_cons
  have isStars : readStars reading rest = (next, behind) := Option.some.inj isToken
  rwa [isStars]

/-- Two stars at the end of a glob add their token. -/
theorem Behind.ending {joint : Joint} {front : List Token} {reading : Reading}
    (behind : Behind joint front reading) :
    ∃ next, readStars reading [] = (next, []) ∧ next.tokens = joint.ending :: front := by
  obtain ⟨level, tokens, begins, slash⟩ := behind
  obtain ⟨outer, tokens', before⟩ := reading
  subst level
  subst tokens
  cases joint with
  | start =>
      obtain ⟨rfl, -⟩ := begins rfl
      exact ⟨_, rfl, rfl⟩
  | leading | slash | between =>
      obtain rfl := slash nofun
      exact ⟨_, rfl, rfl⟩

/-- Two stars and a slash make the joint before them cross directories. -/
theorem Behind.crossing {joint : Joint} {front : List Token} {reading : Reading}
    (behind : Behind joint front reading) (rest : List Char) :
    ∃ next, readStars reading ('/' :: rest) = (next, rest) ∧
      Behind joint.crossing front next := by
  obtain ⟨level, tokens, begins, slash⟩ := behind
  obtain ⟨outer, tokens', before⟩ := reading
  subst level
  subst tokens
  cases joint with
  | start =>
      obtain ⟨rfl, -⟩ := begins rfl
      exact ⟨_, rfl, rfl, rfl, nofun, fun _ => rfl⟩
  | leading | slash | between =>
      obtain rfl := slash nofun
      exact ⟨_, rfl, rfl, rfl, nofun, fun _ => rfl⟩

/-- A joint reads the same both ways. -/
theorem Joint.tokens_reverse (joint : Joint) : joint.tokens.reverse = joint.tokens := by
  cases joint <;> rfl

/-- The first piece has a slash behind it when there is another one. -/
theorem toList_intercalate_cons (piece second : String) (rest : List String) :
    ("/".intercalate (piece :: second :: rest)).toList =
      piece.toList ++ '/' :: ("/".intercalate (second :: rest)).toList := by
  rw [String.intercalate_cons_cons, String.toList_append, String.toList_append,
    List.append_assoc]
  rfl

-- The induction follows the pieces. It goes on from the reading behind the joint before them.
/-- Pieces are read one after another, with a joint in front of each. -/
theorem Behind.joined {joint : Joint} {front : List Token} {reading last : Reading}
    (behind : Behind joint front reading) {pieces : List String} (nonempty : pieces ≠ [])
    (each : ∀ piece ∈ pieces, '/' ∉ piece.toList ∧
      (piece = "**" ∨ ∃ own, parse? piece = some own))
    (reads : Reads reading ("/".intercalate pieces).toList last) (closed : last.outer = []) :
    ∃ tokens, Joined joint pieces tokens ∧ last.tokens.reverse = front.reverse ++ tokens := by
  induction pieces generalizing joint front reading with
  | nil => exact absurd rfl nonempty
  | cons piece rest ih =>
      obtain ⟨⟨noSlash, isPiece⟩, others⟩ := List.forall_mem_cons.1 each
      cases rest with
      | nil =>
          rw [String.intercalate_singleton] at reads
          by_cases stars : piece = "**"
          · subst stars
            obtain ⟨next, isStars, isTokens⟩ := behind.ending
            rw [← List.append_nil "**".toList] at reads
            have reads := reads.of_stars
            rw [isStars] at reads
            cases reads
            refine ⟨_, .ending joint, ?_⟩
            rw [isTokens, List.reverse_cons]
          · obtain ⟨own, isOwn⟩ := isPiece.resolve_left stars
            rw [← List.append_nil piece.toList] at reads
            obtain ⟨middle, -, isTokens, reads⟩ := behind.passes isOwn stars noSlash (by nofun) reads
            cases reads
            refine ⟨_, .last joint isOwn stars, ?_⟩
            rw [isTokens, List.reverse_append, List.reverse_append, List.reverse_reverse,
              Joint.tokens_reverse, List.append_assoc]
      | cons second rest =>
          rw [toList_intercalate_cons] at reads
          by_cases stars : piece = "**"
          · subst stars
            obtain ⟨next, isStars, crossed⟩ :=
              behind.crossing ("/".intercalate (second :: rest)).toList
            have reads := reads.of_stars
            rw [isStars] at reads
            obtain ⟨tokens, joined, isTokens⟩ :=
              ih crossed (List.cons_ne_nil _ _) others reads
            exact ⟨tokens, .crossing joined, isTokens⟩
          · obtain ⟨own, isOwn⟩ := isPiece.resolve_left stars
            obtain ⟨next, slash, reads⟩ := behind.slash_passed isOwn stars noSlash reads
            obtain ⟨tokens, joined, isTokens⟩ := ih slash (List.cons_ne_nil _ _) others reads
            refine ⟨_, .piece joint isOwn stars joined, ?_⟩
            rw [isTokens, List.reverse_append, List.reverse_append, List.reverse_reverse,
              Joint.tokens_reverse]
            simp only [List.append_assoc]

/-- Where every piece of a pattern is two stars or a glob, the tokens of the pattern are those of
its pieces with joints between them. -/
theorem joined_of_parse {pattern : String} {glob : Glob} (isGlob : parse? pattern = some glob)
    (each : ∀ piece ∈ pieces pattern, piece = "**" ∨ ∃ own, parse? piece = some own) :
    Joined .start (pieces pattern) glob.tokens := by
  obtain ⟨last, reads, closed, isTokens⟩ := reads_of_parse isGlob
  have begins : Behind .start [] ⟨[], [], none⟩ :=
    ⟨rfl, rfl, fun _ => ⟨rfl, rfl⟩, fun other => absurd rfl other⟩
  rw [← intercalate_pieces pattern] at reads
  obtain ⟨tokens, joined, same⟩ := begins.joined (pieces_ne_nil pattern)
    (fun piece member => ⟨slash_notMem_piece member, each piece member⟩) reads closed
  rw [isTokens, same]
  exact joined

end OperationCheck.Glob
