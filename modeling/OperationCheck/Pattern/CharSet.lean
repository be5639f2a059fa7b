import OperationCheck.Unicode.Folding

/-!
Sets of characters that a pattern accepts. A set is an expression over ranges of code points, and
membership is computed from it.
-/

namespace OperationCheck.Pattern

/-- Sets are built from ranges. The last two forms also hold the case variants of their members:
those of Unicode, or only those of ASCII letters. -/
inductive CharSet where
  | ranges (held : List (Nat × Nat))
  | union (first second : CharSet)
  | intersection (first second : CharSet)
  | difference (first second : CharSet)
  | symmetricDifference (first second : CharSet)
  | complement (set : CharSet)
  | caseless (set : CharSet)
  | caselessAscii (set : CharSet)
deriving Repr

/-- An ASCII letter has its upper and its lower case, and any other code point only itself. -/
def asciiVariants (point : Nat) : List Nat :=
  if 65 ≤ point ∧ point ≤ 90 then [point, point + 32]
  else if 97 ≤ point ∧ point ≤ 122 then [point - 32, point]
  else [point]

/-- Membership follows the form of the set. -/
def CharSet.holds : CharSet → Nat → Bool
  | .ranges held, point => Unicode.within held point
  | .union first second, point => first.holds point || second.holds point
  | .intersection first second, point => first.holds point && second.holds point
  | .difference first second, point => first.holds point && !second.holds point
  | .symmetricDifference first second, point => first.holds point ^^ second.holds point
  | .complement set, point => !set.holds point
  | .caseless set, point => (Unicode.caseVariants (Char.ofNat point)).any set.holds
  | .caselessAscii set, point => (asciiVariants point).any set.holds

def CharSet.contains (set : CharSet) (c : Char) : Bool := set.holds c.toNat

def CharSet.empty : CharSet := .ranges []

def CharSet.single (c : Char) : CharSet := .ranges [(c.toNat, c.toNat)]

/-- Every character is in the full set. -/
def CharSet.full : CharSet := .ranges [(0, 0x10FFFF)]

/-- A set is ASCII when it is built from ranges of ASCII without a complement. -/
def CharSet.isAscii : CharSet → Bool
  | .ranges held => held.all fun range => range.2 < 128
  | .union first second | .symmetricDifference first second => first.isAscii && second.isAscii
  | .intersection first second => first.isAscii || second.isAscii
  | .difference first _ => first.isAscii
  | .complement _ | .caseless _ => false
  | .caselessAscii set => set.isAscii

/-- The number of ranges estimates how large a set is when it is compiled. -/
def CharSet.rangeCount : CharSet → Nat
  | .ranges held => held.length
  | .union first second | .intersection first second | .difference first second
  | .symmetricDifference first second => first.rangeCount + second.rangeCount
  | .complement set => set.rangeCount + 1
  | .caseless set | .caselessAscii set => 2 * set.rangeCount

end OperationCheck.Pattern
