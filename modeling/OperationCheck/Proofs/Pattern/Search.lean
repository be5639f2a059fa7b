import Mathlib.Data.Nat.Bitwise
import Mathlib.Logic.Function.Iterate
import OperationCheck.Pattern.Search

/-!
The search for a pattern decides whether it occurs. Each part of a pattern maps a set of positions
to the positions where its matches from there end. The main statement says that a pattern is found
in a text exactly when it matches somewhere in it.
-/

namespace OperationCheck.Pattern

/-- All members of the set are positions of the text. -/
def Within (text : List Char) (positions : Positions) : Prop :=
  ∀ position, positions.testBit position = true → position ≤ text.length

/-- The character before a position is the last one passed. -/
theorem before?_append (passed text : List Char) :
    before? (passed ++ text) passed.length = passed.getLast? := by
  rw [before?, List.take_left]

/-- The character behind it is the first one left. -/
theorem after?_append (passed text : List Char) :
    after? (passed ++ text) passed.length = text.head? := by
  rw [after?, List.getElem?_append_right (Nat.le_refl _), Nat.sub_self, List.head?_eq_getElem?]

/-- The set holds the positions behind what was passed whose neighbours pass the test. -/
theorem testBit_positionsFrom (test : Option Char → Option Char → Bool)
    (passed text : List Char) (index : Nat) :
    (positionsFrom test passed.getLast? text).testBit index = true ↔
      index ≤ text.length ∧ test (before? (passed ++ text) (passed.length + index))
        (after? (passed ++ text) (passed.length + index)) = true := by
  induction text generalizing passed index with
  | nil =>
      have first := before?_append passed []
      have second := after?_append passed []
      rw [positionsFrom, Nat.testBit_bool_toNat, Bool.and_eq_true, decide_eq_true_eq]
      constructor
      · rintro ⟨rfl, passes⟩
        exact ⟨Nat.le_refl _, by rw [Nat.add_zero, first, second]; exact passes⟩
      · rintro ⟨small, passes⟩
        obtain rfl : index = 0 := Nat.le_zero.1 small
        rw [Nat.add_zero, first, second] at passes
        exact ⟨rfl, passes⟩
  | cons c text ih =>
      have bit (b : Bool) (n : Nat) : (b.toNat + 2 * n) % 2 = b.toNat ∧
          (b.toNat + 2 * n) / 2 = n := by
        cases b <;> simp only [Bool.toNat_true, Bool.toNat_false] <;> omega
      cases index with
      | zero =>
          rw [positionsFrom, Nat.testBit_zero, (bit _ _).1, Nat.add_zero, before?_append,
            after?_append, List.head?_cons]
          cases test passed.getLast? (some c) <;> simp
      | succ index =>
          have later := ih (passed ++ [c]) index
          rw [List.getLast?_concat, List.append_assoc, List.singleton_append, List.length_append,
            List.length_singleton, Nat.add_assoc, Nat.add_comm 1 index] at later
          rw [positionsFrom, Nat.testBit_succ, (bit _ _).2, later, List.length_cons,
            Nat.add_le_add_iff_right]

/-- The set of the positions that pass a test holds those and no other. -/
theorem testBit_positionsWhere (test : Option Char → Option Char → Bool) (text : List Char)
    (position : Nat) :
    (positionsWhere test text).testBit position = true ↔
      position ≤ text.length ∧ test (before? text position) (after? text position) = true := by
  simpa only [positionsWhere, List.nil_append, List.length_nil, Nat.zero_add, List.getLast?_nil]
    using testBit_positionsFrom test [] text position

/-- A match goes forward and stays within the text. -/
theorem Matches.within {text : List Char} {pattern : Pattern} {start stop : Nat}
    (found : Matches text pattern start stop) (inside : start ≤ text.length) :
    start ≤ stop ∧ stop ≤ text.length := by
  induction found with
  | empty | assertion | done => exact ⟨Nat.le_refl _, inside⟩
  | one set start c isNext =>
      have short : start < text.length := (List.getElem?_eq_some_iff.1 isNext).1
      omega
  | both _ _ start middle stop _ _ ihLeft ihRight =>
      have left := ihLeft inside
      have right := ihRight left.2
      omega
  | left _ _ _ _ _ ih => exact ih inside
  | right _ _ _ _ _ ih => exact ih inside
  | required _ _ _ start middle stop _ _ ihFirst ihRest =>
      have first := ihFirst inside
      have rest := ihRest first.2
      omega
  | optional _ _ start middle stop _ _ _ ihFirst ihRest =>
      have first := ihFirst inside
      have rest := ihRest first.2
      omega

/-- A number of matches follow each other. -/
def Chain (text : List Char) (inner : Pattern) : Nat → Nat → Nat → Prop
  | 0, start, stop => start = stop
  | count + 1, start, stop =>
      ∃ middle, Matches text inner start middle ∧ Chain text inner count middle stop

/-- A chain that begins within the text ends within it, and not before it began. -/
theorem Chain.within {text : List Char} {inner : Pattern} {count start stop : Nat}
    (chain : Chain text inner count start stop) (inside : start ≤ text.length) :
    start ≤ stop ∧ stop ≤ text.length := by
  induction count generalizing start with
  | zero =>
      obtain rfl : start = stop := chain
      exact ⟨Nat.le_refl _, inside⟩
  | succ count ih =>
      obtain ⟨middle, first, rest⟩ := chain
      have early := first.within inside
      have late := ih rest early.2
      omega

/-- Rounds that consume nothing can be left out. -/
theorem Chain.shorten {text : List Char} {inner : Pattern} {count start stop : Nat}
    (chain : Chain text inner count start stop) (inside : start ≤ text.length) :
    ∃ few ≤ stop - start, Chain text inner few start stop := by
  induction count generalizing start with
  | zero => exact ⟨0, Nat.zero_le _, chain⟩
  | succ count ih =>
      obtain ⟨middle, first, rest⟩ := chain
      have early := first.within inside
      have late := rest.within early.2
      obtain ⟨few, bound, shorter⟩ := ih rest early.2
      rcases Nat.eq_or_lt_of_le early.1 with rfl | moves
      · exact ⟨few, bound, shorter⟩
      · exact ⟨few + 1, by omega, middle, first, shorter⟩

/-- Rounds that need not be made are bounded by the greatest number, if there is one. -/
theorem matches_optional_iff {text : List Char} {inner : Pattern} (most : Option Nat)
    (start stop : Nat) :
    Matches text (.repeated 0 most inner) start stop ↔
      ∃ count, (∀ bound, most = some bound → count ≤ bound) ∧
        Chain text inner count start stop := by
  constructor
  · intro found
    generalize whole : Pattern.repeated 0 most inner = pattern at found
    induction found generalizing most with
    | done => exact ⟨0, fun _ _ => Nat.zero_le _, rfl⟩
    | optional _ _ start middle stop allowed first rest _ ih =>
        obtain ⟨_, rfl, rfl⟩ := Pattern.repeated.inj whole
        obtain ⟨count, bounded, chain⟩ := ih _ rfl
        refine ⟨count + 1, ?_, middle, first, chain⟩
        rintro bound rfl
        have small := bounded (bound - 1) rfl
        have : bound ≠ 0 := fun zero => allowed (by rw [zero])
        omega
    | required => simp at whole
    | empty | assertion | one | both | left | right => cases whole
  · rintro ⟨count, bounded, chain⟩
    induction count generalizing most start with
    | zero =>
        obtain rfl : start = stop := chain
        exact .done most inner start
    | succ count ih =>
        obtain ⟨middle, first, rest⟩ := chain
        refine .optional most inner start middle stop ?_ first (ih _ _ ?_ rest)
        · rintro rfl
          exact absurd (bounded 0 rfl) (Nat.not_succ_le_zero count)
        · rintro bound same
          obtain ⟨most, rfl, rfl⟩ := Option.map_eq_some_iff.1 same
          have := bounded most rfl
          omega

/-- The rounds that must be made come first. -/
theorem matches_repeated_iff {text : List Char} {inner : Pattern} (least : Nat)
    (most : Option Nat) (start stop : Nat) :
    Matches text (.repeated least most inner) start stop ↔
      ∃ middle, Chain text inner least start middle ∧
        Matches text (.repeated 0 (most.map (· - least)) inner) middle stop := by
  induction least generalizing most start with
  | zero =>
      have same : most.map (· - 0) = most := by cases most <;> rfl
      rw [same]
      constructor
      · exact fun found => ⟨start, rfl, found⟩
      · rintro ⟨_, rfl, found⟩
        exact found
  | succ least ih =>
      have same : (most.map (· - 1)).map (· - least) = most.map (· - (least + 1)) := by
        cases most with
        | none => rfl
        | some bound =>
            simp only [Option.map_some, Nat.sub_sub, Nat.add_comm 1 least]
      constructor
      · intro found
        cases found with
        | required _ _ _ _ middle _ first rest =>
            obtain ⟨other, chain, last⟩ := (ih _ _).1 rest
            exact ⟨other, ⟨middle, first, chain⟩, same ▸ last⟩
      · rintro ⟨other, ⟨middle, first, chain⟩, last⟩
        exact .required least most inner start middle stop first
          ((ih _ _).2 ⟨other, chain, same.symm ▸ last⟩)

/-- A step maps a set of positions to the ends of the matches from there. -/
def Steps (text : List Char) (inner : Pattern) (step : Positions → Positions) : Prop :=
  ∀ positions, Within text positions → ∀ stop, (step positions).testBit stop = true ↔
    ∃ start, positions.testBit start = true ∧ Matches text inner start stop

/-- A step from positions within the text leads to positions within it. -/
theorem Steps.within {text : List Char} {inner : Pattern} {step : Positions → Positions}
    (steps : Steps text inner step) {positions : Positions} (within : Within text positions) :
    Within text (step positions) := by
  intro stop member
  obtain ⟨start, isStart, found⟩ := (steps positions within stop).1 member
  exact (found.within (within start isStart)).2

/-- Rounds are the step taken that many times. -/
theorem rounds_eq_iterate (step : Positions → Positions) (count : Nat) (positions : Positions) :
    rounds step count positions = step^[count] positions := by
  induction count generalizing positions with
  | zero => rfl
  | succ count ih =>
      rw [rounds, Function.iterate_succ_apply]
      split
      · next same => rw [same, Function.iterate_fixed same]
      · exact ih _

/-- Optional rounds take the step that many times and keep where they were. -/
theorem optionalRounds_eq_iterate (step : Positions → Positions) (count : Nat)
    (positions : Positions) :
    optionalRounds step count positions =
      (fun positions => positions ||| step positions)^[count] positions := by
  induction count generalizing positions with
  | zero => rfl
  | succ count ih =>
      rw [optionalRounds, Function.iterate_succ_apply]
      split
      · next same => rw [same, Function.iterate_fixed same]
      · exact ih _

/-- Rounds reach the ends of the chains of just that many. -/
theorem Steps.testBit_rounds {text : List Char} {inner : Pattern} {step : Positions → Positions}
    (steps : Steps text inner step) (count : Nat) {positions : Positions}
    (within : Within text positions) (stop : Nat) :
    (rounds step count positions).testBit stop = true ↔
      ∃ start, positions.testBit start = true ∧ Chain text inner count start stop := by
  rw [rounds_eq_iterate]
  induction count generalizing positions with
  | zero => exact ⟨fun member => ⟨stop, member, rfl⟩, fun ⟨_, member, same⟩ => same ▸ member⟩
  | succ count ih =>
      rw [Function.iterate_succ_apply, ih (steps.within within)]
      constructor
      · rintro ⟨middle, member, chain⟩
        obtain ⟨start, isStart, first⟩ := (steps positions within middle).1 member
        exact ⟨start, isStart, middle, first, chain⟩
      · rintro ⟨start, isStart, middle, first, chain⟩
        exact ⟨middle, (steps positions within middle).2 ⟨start, isStart, first⟩, chain⟩

/-- Optional rounds reach the ends of the chains of that many at most. -/
theorem Steps.testBit_optionalRounds {text : List Char} {inner : Pattern}
    {step : Positions → Positions} (steps : Steps text inner step) (most : Nat)
    {positions : Positions} (within : Within text positions) (stop : Nat) :
    (optionalRounds step most positions).testBit stop = true ↔
      ∃ start, positions.testBit start = true ∧
        ∃ count ≤ most, Chain text inner count start stop := by
  rw [optionalRounds_eq_iterate]
  induction most generalizing positions with
  | zero =>
      constructor
      · exact fun member => ⟨stop, member, 0, Nat.le_refl 0, rfl⟩
      · rintro ⟨start, member, count, bound, chain⟩
        obtain rfl : count = 0 := Nat.le_zero.1 bound
        obtain rfl : start = stop := chain
        exact member
  | succ most ih =>
      have within' : Within text (positions ||| step positions) := by
        intro position member
        rw [Nat.testBit_or, Bool.or_eq_true] at member
        exact member.elim (within position) (steps.within within position)
      -- The first round is taken apart, so that a chain is longer by its first link.
      rw [Function.iterate_succ_apply, ih within']
      simp only [Nat.testBit_or, Bool.or_eq_true]
      constructor
      · rintro ⟨middle, isOld | isNew, count, bound, chain⟩
        · exact ⟨middle, isOld, count, Nat.le_succ_of_le bound, chain⟩
        · obtain ⟨start, isStart, first⟩ := (steps positions within middle).1 isNew
          exact ⟨start, isStart, count + 1, Nat.succ_le_succ bound, middle, first, chain⟩
      · rintro ⟨start, isStart, count, bound, chain⟩
        cases count with
        | zero => exact ⟨start, .inl isStart, 0, Nat.zero_le _, chain⟩
        | succ count =>
            obtain ⟨middle, first, rest⟩ := chain
            exact ⟨middle, .inr ((steps positions within middle).2 ⟨start, isStart, first⟩),
              count, Nat.le_of_succ_le_succ bound, rest⟩

/-- The number of optional rounds that a search makes is enough. -/
theorem exists_chain_iff {text : List Char} {inner : Pattern} (least : Nat) (most : Option Nat)
    {middle : Nat} (inside : middle ≤ text.length) (stop : Nat) :
    (∃ count ≤ (match most with
        | none => text.length + 1
        | some most => most - least), Chain text inner count middle stop) ↔
      Matches text (.repeated 0 (most.map (· - least)) inner) middle stop := by
  rw [matches_optional_iff]
  cases most with
  | none =>
      constructor
      · rintro ⟨count, _, chain⟩
        exact ⟨count, nofun, chain⟩
      · rintro ⟨count, _, chain⟩
        obtain ⟨few, bound, shorter⟩ := chain.shorten inside
        have := (chain.within inside).2
        exact ⟨few, by change few ≤ text.length + 1; omega, shorter⟩
  | some most =>
      constructor
      · rintro ⟨count, bound, chain⟩
        exact ⟨count, fun _ same => Option.some.inj same ▸ bound, chain⟩
      · rintro ⟨count, bounded, chain⟩
        exact ⟨count, bounded _ rfl, chain⟩

theorem steps_empty (text : List Char) : Steps text .empty fun positions => positions := by
  intro positions within stop
  constructor
  · exact fun member => ⟨stop, member, .empty stop⟩
  · rintro ⟨start, member, found⟩
    cases found
    exact member

/-- An assertion keeps the positions where it holds. -/
theorem steps_assertion (text : List Char) (condition : Assertion) :
    Steps text (.assertion condition)
      fun positions => positions &&& positionsWhere condition.holds text := by
  intro positions within stop
  rw [Nat.testBit_and, Bool.and_eq_true, testBit_positionsWhere]
  constructor
  · exact fun ⟨member, _, holds⟩ => ⟨stop, member, .assertion condition stop holds⟩
  · rintro ⟨start, member, found⟩
    cases found with
    | assertion _ _ holds => exact ⟨member, within stop member, holds⟩

/-- A set moves behind the positions where it accepts the next character. -/
theorem steps_one (text : List Char) (set : CharSet) :
    Steps text (.one set) fun positions =>
      (positions &&& positionsWhere (fun _ after => after.any set.contains) text) <<< 1 := by
  intro positions within stop
  rw [Nat.testBit_shiftLeft, Nat.testBit_and]
  simp only [Bool.and_eq_true, decide_eq_true_eq, testBit_positionsWhere, Option.any_eq_true]
  constructor
  · rintro ⟨positive, member, _, c, isNext, accepted⟩
    refine ⟨stop - 1, member, ?_⟩
    have found := Matches.one set (stop - 1) c isNext accepted
    rwa [Nat.sub_add_cancel positive] at found
  · rintro ⟨start, member, found⟩
    cases found with
    | one _ _ c isNext accepted =>
        exact ⟨Nat.succ_pos start, member, within start member, c, isNext, accepted⟩

theorem Steps.both {text : List Char} {first second : Pattern} {step next : Positions → Positions}
    (steps : Steps text first step) (others : Steps text second next) :
    Steps text (.both first second) fun positions => next (step positions) := by
  intro positions within stop
  rw [others _ (steps.within within)]
  constructor
  · rintro ⟨middle, member, right⟩
    obtain ⟨start, isStart, left⟩ := (steps positions within middle).1 member
    exact ⟨start, isStart, .both first second start middle stop left right⟩
  · rintro ⟨start, isStart, found⟩
    cases found with
    | both _ _ _ middle _ left right =>
        exact ⟨middle, (steps positions within middle).2 ⟨start, isStart, left⟩, right⟩

theorem Steps.either {text : List Char} {first second : Pattern}
    {step other : Positions → Positions} (steps : Steps text first step)
    (others : Steps text second other) :
    Steps text (.either first second) fun positions => step positions ||| other positions := by
  intro positions within stop
  rw [Nat.testBit_or, Bool.or_eq_true, steps positions within, others positions within]
  constructor
  · rintro (⟨start, isStart, found⟩ | ⟨start, isStart, found⟩)
    · exact ⟨start, isStart, .left first second start stop found⟩
    · exact ⟨start, isStart, .right first second start stop found⟩
  · rintro ⟨start, isStart, found⟩
    cases found with
    | left _ _ _ _ found => exact .inl ⟨start, isStart, found⟩
    | right _ _ _ _ found => exact .inr ⟨start, isStart, found⟩

/-- The rounds that must be made come first, and then as many optional ones as may matter. -/
theorem Steps.repeated {text : List Char} {inner : Pattern} {step : Positions → Positions}
    (steps : Steps text inner step) (least : Nat) (most : Option Nat) :
    Steps text (.repeated least most inner) fun positions =>
      optionalRounds step (match most with
        | none => text.length + 1
        | some most => most - least) (rounds step least positions) := by
  intro positions within stop
  have within' : Within text (rounds step least positions) := by
    intro middle member
    obtain ⟨start, isStart, chain⟩ := (steps.testBit_rounds least within middle).1 member
    exact (chain.within (within start isStart)).2
  rw [steps.testBit_optionalRounds _ within']
  constructor
  · rintro ⟨middle, member, some⟩
    obtain ⟨start, isStart, chain⟩ := (steps.testBit_rounds least within middle).1 member
    exact ⟨start, isStart, (matches_repeated_iff least most start stop).2
      ⟨middle, chain, (exists_chain_iff least most (within' middle member) stop).1 some⟩⟩
  · rintro ⟨start, isStart, found⟩
    obtain ⟨middle, chain, last⟩ := (matches_repeated_iff least most start stop).1 found
    have member := (steps.testBit_rounds least within middle).2 ⟨start, isStart, chain⟩
    exact ⟨middle, member, (exists_chain_iff least most (within' middle member) stop).2 last⟩

/-- The overlay of a pattern maps positions to the ends of the matches from there. -/
theorem steps_overlay (text : List Char) (pattern : Pattern) :
    Steps text pattern (overlay text pattern).reach := by
  induction pattern with
  | empty => exact steps_empty text
  | assertion condition => exact steps_assertion text condition
  | one set => exact steps_one text set
  | both first second ihFirst ihSecond => exact ihFirst.both ihSecond
  | either first second ihFirst ihSecond => exact ihFirst.either ihSecond
  | repeated least most inner ih => exact ih.repeated least most

/-- All positions are those up to the end of the text. -/
theorem testBit_allPositions (text : List Char) (position : Nat) :
    (allPositions text).testBit position = true ↔ position ≤ text.length := by
  rw [allPositions, Nat.one_shiftLeft, Nat.testBit_two_pow_sub_one, decide_eq_true_eq,
    Nat.lt_succ_iff]

/-- A pattern is found exactly when it occurs. -/
theorem isFound_iff_occurs (pattern : Pattern) (text : List Char) :
    isFound pattern text = true ↔ Occurs pattern text := by
  have steps := steps_overlay text pattern (allPositions text)
    fun position => (testBit_allPositions text position).1
  rw [isFound, bne_iff_ne]
  constructor
  · intro some
    obtain ⟨stop, member⟩ := Nat.exists_testBit_of_ne_zero some
    obtain ⟨start, isStart, found⟩ := (steps stop).1 member
    exact ⟨start, stop, (testBit_allPositions text start).1 isStart, found⟩
  · rintro ⟨start, stop, inside, found⟩ none
    have member := (steps stop).2 ⟨start, (testBit_allPositions text start).2 inside, found⟩
    rw [none, Nat.zero_testBit] at member
    cases member

end OperationCheck.Pattern
