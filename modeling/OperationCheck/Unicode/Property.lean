/-!
Sets of code points as the Unicode character database gives them. A set is written as one text,
in which numbers alternate: how many code points are left out, and how many more than one follow.
-/

namespace OperationCheck.Unicode

/-- The value of a hexadecimal digit is zero for other characters. -/
def digitValue (c : Char) : Nat :=
  if '0' ≤ c ∧ c ≤ '9' then c.toNat - 48
  else if 'a' ≤ c ∧ c ≤ 'f' then c.toNat - 87
  else 0

/-- A number ends with a letter from `g` to `v`, which holds its last hexadecimal digit. -/
def numbers : Nat → List Char → List Nat
  | _, [] => []
  | value, c :: rest =>
      if 'g' ≤ c ∧ c ≤ 'v' then (16 * value + (c.toNat - 103)) :: numbers 0 rest
      else numbers (16 * value + digitValue c) rest

/-- Each pair of numbers gives the gap before a range and the distance of its ends. -/
def rangesFrom : Nat → List Nat → List (Nat × Nat)
  | start, gap :: distance :: rest =>
      (start + gap, start + gap + distance) :: rangesFrom (start + gap + distance + 1) rest
  | _, _ => []

/-- A long text is written in lines. -/
def charactersOf (lines : List String) : List Char := lines.flatMap String.toList

/-- This function reads the ranges that a text stands for. -/
def rangesOf (code : List String) : List (Nat × Nat) := rangesFrom 0 (numbers 0 (charactersOf code))

/-- A code point is within a list of ranges when one of them holds it. -/
def within (ranges : List (Nat × Nat)) (point : Nat) : Bool :=
  ranges.any fun range => range.1 ≤ point && point ≤ range.2

/-- A property has several names and one set of code points. Names are in lower case and hold
no separators. -/
structure Property where
  names : List String
  code : List String

def Property.ranges (property : Property) : List (Nat × Nat) := rangesOf property.code

/-- This function finds the property with a given name. -/
def named? (properties : List Property) (name : String) : Option Property :=
  properties.find? fun property => property.names.contains name

end OperationCheck.Unicode
