import OperationCheck.Documents.Discovery
import OperationCheck.Proofs.Glob.Words

/-!
Reading globs. A glob is read token by token, and every token is read from the next characters of
the source. The main statements bound the slashes of a glob by those of its source, and say that
only two stars in a row give tokens that cross directories.
-/

namespace OperationCheck.Glob

open OperationCheck.Documents

/-- A source is read token by token up to its end. -/
inductive Reads : Reading → List Char → Reading → Prop where
  | done (reading : Reading) : Reads reading [] reading
  | token {reading next last : Reading} {c : Char} {rest behind : List Char}
      (isToken : readToken false reading c rest = some (next, behind))
      (others : Reads next behind last) : Reads reading (c :: rest) last

/-- The reader of a glob takes one step after another. -/
theorem reads_of_readTokens {fuel : Nat} {reading last : Reading} {source : List Char}
    (read : readTokens false fuel reading source = some last) : Reads reading source last := by
  induction fuel generalizing reading source with
  | zero => cases read
  | succ fuel ih =>
      cases source with
      | nil =>
          obtain rfl := Option.some.inj read
          exact .done reading
      | cons c rest =>
          obtain ⟨⟨next, behind⟩, isToken, others⟩ := Option.bind_eq_some_iff.1 read
          exact .token isToken (ih others)

/-- At the end of a glob, no braces are open. -/
theorem reads_of_parse {source : String} {glob : Glob} (isGlob : parse? source = some glob) :
    ∃ last, Reads ⟨[], [], none⟩ source.toList last ∧ last.outer = [] ∧
      glob.tokens = last.tokens.reverse := by
  obtain ⟨last, read, closed⟩ := Option.bind_eq_some_iff.1 isGlob
  split at closed
  · next allClosed =>
      obtain rfl := Option.some.inj closed
      exact ⟨last, reads_of_readTokens read, List.isEmpty_iff.1 allClosed, rfl⟩
  · cases closed

/-- What is left behind a bracket is the end of what it was read from. -/
theorem readRanges_suffix {state : BracketState} {source behind : List Char}
    {ranges : List (Char × Char)} (read : readRanges state source = some (ranges, behind)) :
    behind <:+ source := by
  fun_induction readRanges state source
  case case1 | case3 | case5 => cases read
  case case2 =>
    obtain ⟨-, rfl⟩ := Prod.mk.inj (Option.some.inj read)
    exact List.suffix_cons _ _
  case case4 ih | case6 ih | case7 ih => exact (ih read).trans (List.suffix_cons _ _)

/-- A bracket leaves a rest of the source. -/
theorem readBracket_suffix {source behind : List Char} {bracket : Bracket}
    (read : readBracket source = some (bracket, behind)) : behind <:+ source := by
  obtain ⟨⟨ranges, rest⟩, isRead, same⟩ := Option.map_eq_some_iff.1 read
  obtain ⟨-, rfl⟩ := Prod.mk.inj same
  refine (readRanges_suffix isRead).trans ?_
  split
  · exact List.suffix_cons _ _
  · exact List.suffix_cons _ _
  · exact List.suffix_refl _

/-- One step reads a single token that stays within a name, or two stars, or a mark of braces. -/
inductive Step (reading : Reading) : List Char → Reading → List Char → Prop where
  | push {token : Token} {last : Char} {source behind : List Char}
      (within : token.every isWithinName = true)
      (shorter : token.slashes + behind.count '/' ≤ source.count '/')
      (isRest : behind <:+ source) : Step reading source (reading.push token last) behind
  | stars (rest : List Char) :
      Step reading ('*' :: '*' :: rest) (readStars reading rest).1 (readStars reading rest).2
  | openBraces (c : Char) (rest : List Char) :
      Step reading (c :: rest) ⟨([], reading.tokens) :: reading.outer, [], some c⟩ rest
  | closeBraces (c : Char) (rest : List Char) {next : Reading}
      (closes : reading.closeBraces = some next) : Step reading (c :: rest) next rest
  | nextBranch (c : Char) (rest : List Char) : Step reading (c :: rest) reading.nextBranch rest

/-- Reading a token is one of the steps. -/
theorem step_of_readToken {reading next : Reading} {c : Char} {rest behind : List Char}
    (read : readToken false reading c rest = some (next, behind)) :
    Step reading (c :: rest) next behind := by
  have fewer {behind source : List Char} (isRest : behind <:+ source) :
      0 + behind.count '/' ≤ source.count '/' :=
    (Nat.zero_add _).symm ▸ isRest.sublist.count_le '/'
  unfold readToken at read
  split at read
  · obtain ⟨rfl, rfl⟩ := Prod.mk.inj (Option.some.inj read)
    exact .push rfl (fewer (List.suffix_cons _ _)) (List.suffix_cons _ _)
  · split at read
    · obtain ⟨rfl, rfl⟩ := Prod.mk.inj (Option.some.inj read)
      exact .stars _
    · obtain ⟨rfl, rfl⟩ := Prod.mk.inj (Option.some.inj read)
      exact .push rfl (fewer (List.suffix_cons _ _)) (List.suffix_cons _ _)
  · split at read
    · next isBracket =>
        obtain ⟨rfl, rfl⟩ := Prod.mk.inj (Option.some.inj read)
        have isRest := (readBracket_suffix isBracket).trans (List.suffix_cons '[' _)
        exact .push rfl (fewer isRest) isRest
    · cases read
  · obtain ⟨rfl, rfl⟩ := Prod.mk.inj (Option.some.inj read)
    exact .openBraces _ _
  · obtain ⟨closed, closes, same⟩ := Option.map_eq_some_iff.1 read
    obtain ⟨rfl, rfl⟩ := Prod.mk.inj same
    exact .closeBraces _ _ closes
  · obtain ⟨rfl, rfl⟩ := Prod.mk.inj (Option.some.inj read)
    exact .nextBranch _ _
  · split at read
    · next escaped rest =>
        obtain ⟨rfl, rfl⟩ := Prod.mk.inj (Option.some.inj read)
        refine .push rfl ?_ ((List.suffix_cons _ _).trans (List.suffix_cons _ _))
        rw [List.count_cons_of_ne (by decide), List.count_cons, Nat.add_comm]
        simp only [Token.slashes, beq_iff_eq]
        exact Nat.le_refl _
    · cases read
  · obtain ⟨rfl, rfl⟩ := Prod.mk.inj (Option.some.inj read)
    refine .push rfl ?_ (List.suffix_cons _ _)
    rw [List.count_cons, Nat.add_comm]
    simp only [Token.slashes, beq_iff_eq]
    exact Nat.le_refl _

/-- The tokens of a reading are those being read and those before its open braces. -/
def Reading.every (test : Token → Bool) (reading : Reading) : Bool :=
  tokensEvery test reading.tokens &&
    reading.outer.all fun held => branchesEvery test held.1 && tokensEvery test held.2

def Reading.slashes (reading : Reading) : Nat :=
  tokensSlashes reading.tokens +
    (reading.outer.map fun held => branchesSlashes held.1 + tokensSlashes held.2).sum

/-- A further token must pass the test. -/
theorem Reading.every_push (test : Token → Bool) (reading : Reading) (token : Token) (last : Char) :
    (reading.push token last).every test = (token.every test && reading.every test) :=
  Bool.and_assoc _ _ _

/-- A further branch passes if a literal comma does. -/
theorem Reading.every_nextBranch {test : Token → Bool} {reading : Reading}
    (passes : test (.literal ',') = true) (every : reading.every test = true) :
    reading.nextBranch.every test = true := by
  obtain ⟨outer, tokens, before⟩ := reading
  cases outer with
  | nil =>
      rw [Reading.nextBranch, Reading.every_push, every, Bool.and_true]
      exact passes
  | cons held outer =>
      simp only [Reading.every, List.all_cons, Bool.and_eq_true] at every
      obtain ⟨inner, ⟨branches, front⟩, others⟩ := every
      simp only [Reading.nextBranch, Reading.every, List.all_cons, branchesEvery_append,
        branchesEvery, tokensEvery, tokensEvery_reverse, inner, branches, front, others,
        Bool.and_self]

/-- Closing braces changes nothing about a test. -/
theorem Reading.every_closeBraces {test : Token → Bool} {reading next : Reading}
    (closes : reading.closeBraces = some next) (every : reading.every test = true) :
    next.every test = true := by
  obtain ⟨outer, tokens, before⟩ := reading
  cases outer with
  | nil => cases closes
  | cons held outer =>
      obtain rfl := Option.some.inj closes
      simp only [Reading.every, List.all_cons, Bool.and_eq_true] at every
      obtain ⟨inner, ⟨branches, front⟩, others⟩ := every
      simp only [Reading.every, tokensEvery, Token.every, branchesEvery_append, branchesEvery,
        tokensEvery_reverse, inner, branches, front, others, Bool.and_self]

theorem Reading.slashes_push (reading : Reading) (token : Token) (last : Char) :
    (reading.push token last).slashes = token.slashes + reading.slashes :=
  Nat.add_assoc _ _ _

theorem Reading.slashes_nextBranch (reading : Reading) :
    reading.nextBranch.slashes = reading.slashes := by
  obtain ⟨outer, tokens, before⟩ := reading
  cases outer with
  | nil => exact Nat.zero_add _
  | cons held outer =>
      simp only [Reading.nextBranch, Reading.slashes, List.map_cons, List.sum_cons,
        branchesSlashes_append, branchesSlashes, tokensSlashes, tokensSlashes_reverse]
      omega

/-- Closing braces adds no slashes. -/
theorem Reading.slashes_closeBraces {reading next : Reading}
    (closes : reading.closeBraces = some next) : next.slashes = reading.slashes := by
  obtain ⟨outer, tokens, before⟩ := reading
  cases outer with
  | nil => cases closes
  | cons held outer =>
      obtain rfl := Option.some.inj closes
      simp only [Reading.slashes, List.map_cons, List.sum_cons, tokensSlashes, Token.slashes,
        branchesSlashes_append, branchesSlashes, tokensSlashes_reverse]
      omega

/-- Stars that take the place of a token stand for no slash. -/
theorem Reading.slashes_replaceSlash {token : Token} (none : token.slashes = 0) (reading : Reading)
    (last : Char) : (reading.replaceSlash token last).slashes ≤ reading.slashes := by
  unfold Reading.replaceSlash
  split
  · exact Nat.le_refl _
  · exact Nat.le_refl _
  · next isTokens =>
      simp only [Reading.slashes, isTokens, tokensSlashes, none]
      omega
  · rw [Reading.slashes_push, none, Nat.zero_add]

/-- Two stars go to the beginning of a branch, act like a single one, or take the place of the
token before them. They use up no more than the slash behind them. -/
theorem readStars_cases (reading : Reading) (rest : List Char) :
    (readStars reading rest).2 <:+ rest ∧
      ((∃ last, (readStars reading rest).1 = reading.push .leading last) ∨
        (readStars reading rest).1 = reading.twoStars '*' ∨
        ∃ token last, Token.slashes token = 0 ∧
          (readStars reading rest).1 = reading.replaceSlash token last) := by
  unfold readStars
  split
  · unfold starsFirst
    split
    · exact ⟨List.suffix_refl _, .inl ⟨_, rfl⟩⟩
    · exact ⟨List.suffix_cons _ _, .inl ⟨_, rfl⟩⟩
    · exact ⟨List.suffix_refl _, .inr (.inl rfl)⟩
  · dsimp only
    split
    · split
      · exact ⟨List.suffix_refl _, .inr (.inr ⟨.trailing, _, rfl, rfl⟩)⟩
      · exact ⟨List.suffix_cons _ _, .inr (.inr ⟨.between, _, rfl, rfl⟩)⟩
      · split
        · exact ⟨List.suffix_refl _, .inr (.inr ⟨.trailing, _, rfl, rfl⟩)⟩
        · exact ⟨List.suffix_refl _, .inr (.inl rfl)⟩
    · exact ⟨List.suffix_refl _, .inr (.inl rfl)⟩

/-- Two stars stand for no slash. -/
theorem readStars_slashes (reading : Reading) (rest : List Char) :
    (readStars reading rest).1.slashes ≤ reading.slashes := by
  obtain ⟨-, ⟨last, leads⟩ | stars | ⟨token, last, none, replaces⟩⟩ := readStars_cases reading rest
  · rw [leads, Reading.slashes_push]
    exact Nat.le_of_eq (Nat.zero_add _)
  · rw [stars, Reading.twoStars, Reading.slashes_push, Reading.slashes_push]
    exact Nat.le_of_eq ((Nat.zero_add _).trans (Nat.zero_add _))
  · rw [replaces]
    exact reading.slashes_replaceSlash none last

/-- A step leaves a rest of the source. -/
theorem Step.isRest {reading next : Reading} {source behind : List Char}
    (step : Step reading source next behind) : behind <:+ source := by
  cases step with
  | push _ _ isRest => exact isRest
  | stars rest =>
      exact (readStars_cases reading rest).1.trans
        ((List.suffix_cons _ _).trans (List.suffix_cons _ _))
  | openBraces | closeBraces | nextBranch => exact List.suffix_cons _ _

/-- A step adds no more slashes to a reading than it consumes. -/
theorem Step.slashes_le {reading next : Reading} {source behind : List Char}
    (step : Step reading source next behind) :
    next.slashes + behind.count '/' ≤ reading.slashes + source.count '/' := by
  cases step with
  | push _ shorter _ =>
      rw [Reading.slashes_push]
      omega
  | stars rest =>
      rw [List.count_cons_of_ne (by decide), List.count_cons_of_ne (by decide)]
      exact Nat.add_le_add (readStars_slashes reading rest)
        ((readStars_cases reading rest).1.sublist.count_le '/')
  | openBraces c rest =>
      simp only [Reading.slashes, List.map_cons, List.sum_cons, branchesSlashes, tokensSlashes,
        List.count_cons]
      omega
  | closeBraces c rest closes =>
      rw [Reading.slashes_closeBraces closes, List.count_cons]
      omega
  | nextBranch c rest =>
      rw [Reading.slashes_nextBranch, List.count_cons]
      omega

/-- Without two stars, a step adds only tokens that stay within a name. -/
theorem Step.within {reading next : Reading} {source behind : List Char}
    (step : Step reading source next behind) (single : hasTwoStars source = false)
    (within : reading.every isWithinName = true) : next.every isWithinName = true := by
  cases step with
  | push isWithin _ _ => rw [Reading.every_push, isWithin, within, Bool.and_self]
  | stars => cases single
  | openBraces =>
      simp only [Reading.every, Bool.and_eq_true] at within
      simp only [Reading.every, tokensEvery, branchesEvery, List.all_cons, within, Bool.and_self]
  | closeBraces _ _ closes => exact Reading.every_closeBraces closes within
  | nextBranch => exact Reading.every_nextBranch rfl within

/-- A rest has two stars only if the whole has them. -/
theorem hasTwoStars_suffix {behind source : List Char} (isRest : behind <:+ source)
    (single : hasTwoStars source = false) : hasTwoStars behind = false := by
  obtain ⟨front, rfl⟩ := isRest
  induction front with
  | nil => exact single
  | cons c front ih =>
      refine ih ?_
      rw [List.cons_append] at single
      unfold hasTwoStars at single
      split at single
      · cases single
      · next same => exact (List.cons.inj same).2 ▸ single
      · next same => cases same

/-- A reading has no more slashes than its source. -/
theorem Reads.slashes_le {reading last : Reading} {source : List Char}
    (reads : Reads reading source last) : last.slashes ≤ reading.slashes + source.count '/' := by
  induction reads with
  | done => exact Nat.le_add_right _ _
  | token isToken _ ih =>
      have step := (step_of_readToken isToken).slashes_le
      omega

/-- Without two stars, every token stays within a name. -/
theorem Reads.within {reading last : Reading} {source : List Char}
    (reads : Reads reading source last) (single : hasTwoStars source = false)
    (within : reading.every isWithinName = true) : last.every isWithinName = true := by
  induction reads with
  | done => exact within
  | token isToken _ ih =>
      have step := step_of_readToken isToken
      exact ih (hasTwoStars_suffix step.isRest single) (step.within single within)

/-- A glob has no more slashes than its source. -/
theorem slashes_le_of_parse {source : String} {glob : Glob} (isGlob : parse? source = some glob) :
    tokensSlashes glob.tokens ≤ source.toList.count '/' := by
  obtain ⟨last, reads, -, isTokens⟩ := reads_of_parse isGlob
  have bound := reads.slashes_le
  rw [isTokens, tokensSlashes_reverse]
  simp only [Reading.slashes, tokensSlashes, List.map_nil, List.sum_nil, Nat.zero_add] at bound
  omega

/-- Only two stars in a row give tokens that cross directories. -/
theorem within_of_parse {source : String} {glob : Glob} (isGlob : parse? source = some glob)
    (single : hasTwoStars source.toList = false) :
    tokensEvery isWithinName glob.tokens = true := by
  obtain ⟨last, reads, -, isTokens⟩ := reads_of_parse isGlob
  have within := reads.within single rfl
  rw [Reading.every, Bool.and_eq_true] at within
  rw [isTokens, tokensEvery_reverse]
  exact within.1

end OperationCheck.Glob
