import OperationCheck.Validation.Cause

/-!
Findings and their order. What belongs to no place comes first, and the others are in the order of
their places. Findings at one place stay in the order in which they were made.
-/

namespace OperationCheck.Validation

structure Finding where
  place : Option Nat
  cause : Cause
deriving Repr, DecidableEq

/-- A finding at a place. -/
def found (place : Nat) (cause : Cause) : Finding := ⟨some place, cause⟩

def placeLe : Option Nat → Option Nat → Bool
  | none, _ => true
  | some _, none => false
  | some first, some second => first ≤ second

def inOrder (findings : List Finding) : List Finding :=
  findings.mergeSort fun first second => placeLe first.place second.place

/-- A test that fails gives one finding. -/
def demand (holds : Bool) (finding : Finding) : List Finding := if holds then [] else [finding]

end OperationCheck.Validation
