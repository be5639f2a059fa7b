import OperationCheck.Pattern.CharSet
import OperationCheck.Unicode.Word

/-!
Patterns and what they match. A match goes from one position of a text to another, and a pattern
is found in a text when it matches between any two of its positions.
-/

namespace OperationCheck.Pattern

/-- An assertion looks at the characters on both sides of a position. -/
inductive Assertion where
  | textStart
  | textEnd
  | lineStart
  | lineEnd
  | lineStartAnyBreak
  | lineEndAnyBreak
  | wordBoundary (ascii : Bool)
  | notWordBoundary (ascii : Bool)
  | wordStart (ascii : Bool)
  | wordEnd (ascii : Bool)
  | wordStartHalf (ascii : Bool)
  | wordEndHalf (ascii : Bool)
deriving Repr, DecidableEq

/-- A word character is one of Unicode or only one of ASCII. -/
def isWordIn (ascii : Bool) (c : Char) : Bool :=
  if ascii then c.isAlphanum || c == '_' else Unicode.isWord c

/-- An assertion is decided by the characters before and after a position, if there are any. -/
def Assertion.holds : Assertion → Option Char → Option Char → Bool
  | .textStart, before, _ => before.isNone
  | .textEnd, _, after => after.isNone
  | .lineStart, before, _ => before.all (· == '\n')
  | .lineEnd, _, after => after.all (· == '\n')
  | .lineStartAnyBreak, before, after =>
      before.all fun c => c == '\n' || (c == '\r' && after != some '\n')
  | .lineEndAnyBreak, before, after =>
      after.all fun c => c == '\r' || (c == '\n' && before != some '\r')
  | .wordBoundary ascii, before, after => before.any (isWordIn ascii) != after.any (isWordIn ascii)
  | .notWordBoundary ascii, before, after =>
      before.any (isWordIn ascii) == after.any (isWordIn ascii)
  | .wordStart ascii, before, after => !before.any (isWordIn ascii) && after.any (isWordIn ascii)
  | .wordEnd ascii, before, after => before.any (isWordIn ascii) && !after.any (isWordIn ascii)
  | .wordStartHalf ascii, before, _ => !before.any (isWordIn ascii)
  | .wordEndHalf ascii, _, after => !after.any (isWordIn ascii)

end OperationCheck.Pattern

namespace OperationCheck

/-- A pattern matches the empty text, asserts something of a position, accepts one character, or
combines patterns. A repetition has a least number of rounds and may have a greatest one. -/
inductive Pattern where
  | empty
  | assertion (condition : Pattern.Assertion)
  | one (set : Pattern.CharSet)
  | both (first second : Pattern)
  | either (first second : Pattern)
  | repeated (least : Nat) (most : Option Nat) (inner : Pattern)
deriving Repr

end OperationCheck

namespace OperationCheck.Pattern

/-- The character before a position ends the text up to it. -/
def before? (text : List Char) (position : Nat) : Option Char := (text.take position).getLast?

/-- The character after a position begins the rest of the text. -/
def after? (text : List Char) (position : Nat) : Option Char := text[position]?

/-- A pattern matches from one position of a text to another. -/
inductive Matches (text : List Char) : Pattern → Nat → Nat → Prop where
  | empty (start : Nat) : Matches text .empty start start
  | assertion (condition : Assertion) (start : Nat)
      (holds : condition.holds (before? text start) (after? text start) = true) :
      Matches text (.assertion condition) start start
  | one (set : CharSet) (start : Nat) (c : Char) (found : after? text start = some c)
      (accepted : set.contains c = true) : Matches text (.one set) start (start + 1)
  | both (first second : Pattern) (start middle stop : Nat) (left : Matches text first start middle)
      (right : Matches text second middle stop) : Matches text (.both first second) start stop
  | left (first second : Pattern) (start stop : Nat) (found : Matches text first start stop) :
      Matches text (.either first second) start stop
  | right (first second : Pattern) (start stop : Nat) (found : Matches text second start stop) :
      Matches text (.either first second) start stop
  | done (most : Option Nat) (inner : Pattern) (start : Nat) :
      Matches text (.repeated 0 most inner) start start
  | required (least : Nat) (most : Option Nat) (inner : Pattern) (start middle stop : Nat)
      (first : Matches text inner start middle)
      (rest : Matches text (.repeated least (most.map (· - 1)) inner) middle stop) :
      Matches text (.repeated (least + 1) most inner) start stop
  | optional (most : Option Nat) (inner : Pattern) (start middle stop : Nat)
      (allowed : most ≠ some 0) (first : Matches text inner start middle)
      (rest : Matches text (.repeated 0 (most.map (· - 1)) inner) middle stop) :
      Matches text (.repeated 0 most inner) start stop

/-- A pattern occurs in a text when it matches somewhere in it. -/
def Occurs (pattern : Pattern) (text : List Char) : Prop :=
  ∃ start stop, start ≤ text.length ∧ Matches text pattern start stop

end OperationCheck.Pattern
