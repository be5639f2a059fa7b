import OperationCheck.Pattern.Basic

/-!
Search for a pattern in a text. A set of positions is a number, whose bits stand for them. A
pattern is first laid over the text: each of its parts becomes the set of positions where it may
apply. The result maps the positions where a match may begin to those where it may end, so the
search visits each part of a pattern once for all positions.
-/

namespace OperationCheck.Pattern

/-- Bit `i` of a number stands for position `i`. -/
abbrev Positions := Nat

/-- This function collects the positions whose neighbours pass a test. -/
def positionsFrom (test : Option Char → Option Char → Bool) (before : Option Char) :
    List Char → Positions
  | [] => (test before none).toNat
  | c :: rest => (test before (some c)).toNat + 2 * positionsFrom test (some c) rest

def positionsWhere (test : Option Char → Option Char → Bool) (text : List Char) : Positions :=
  positionsFrom test none text

/-- An overlay is a pattern whose assertions and sets are replaced by positions of one text. -/
inductive Overlay where
  | stay
  | keep (allowed : Positions)
  | advance (allowed : Positions)
  | both (first second : Overlay)
  | either (first second : Overlay)
  | repeated (least : Nat) (extra : Nat) (inner : Overlay)

/-- A round that consumes no character need not be repeated, so the length of the text bounds the
rounds of a repetition without a greatest number. -/
def overlay (text : List Char) : Pattern → Overlay
  | .empty => .stay
  | .assertion condition => .keep (positionsWhere condition.holds text)
  | .one set => .advance (positionsWhere (fun _ after => after.any set.contains) text)
  | .both first second => .both (overlay text first) (overlay text second)
  | .either first second => .either (overlay text first) (overlay text second)
  | .repeated least most inner =>
      let extra := match most with
        | none => text.length + 1
        | some most => most - least
      .repeated least extra (overlay text inner)

/-- A fixed number of rounds stops early when a round changes nothing. -/
def rounds (step : Positions → Positions) : Nat → Positions → Positions
  | 0, positions => positions
  | count + 1, positions =>
      let next := step positions
      if next = positions then positions else rounds step count next

/-- Optional rounds keep the positions from which they begin. -/
def optionalRounds (step : Positions → Positions) : Nat → Positions → Positions
  | 0, positions => positions
  | count + 1, positions =>
      let next := positions ||| step positions
      if next = positions then positions else optionalRounds step count next

/-- These are the positions where matches end that begin at given ones. -/
def Overlay.reach : Overlay → Positions → Positions
  | .stay, positions => positions
  | .keep allowed, positions => positions &&& allowed
  | .advance allowed, positions => (positions &&& allowed) <<< 1
  | .both first second, positions => second.reach (first.reach positions)
  | .either first second, positions => first.reach positions ||| second.reach positions
  | .repeated least extra inner, positions =>
      optionalRounds inner.reach extra (rounds inner.reach least positions)

/-- A text of length `n` has the positions from zero to `n`. -/
def allPositions (text : List Char) : Positions := 1 <<< (text.length + 1) - 1

/-- A pattern is found when a match from some position ends anywhere. -/
def isFound (pattern : Pattern) (text : List Char) : Bool :=
  (overlay text pattern).reach (allPositions text) != 0

end OperationCheck.Pattern
