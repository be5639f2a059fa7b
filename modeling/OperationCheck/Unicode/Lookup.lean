import OperationCheck.Unicode.Age
import OperationCheck.Unicode.Binary
import OperationCheck.Unicode.Category
import OperationCheck.Unicode.GraphemeBreak
import OperationCheck.Unicode.Script
import OperationCheck.Unicode.ScriptExtension
import OperationCheck.Unicode.SentenceBreak
import OperationCheck.Unicode.WordBreak

/-!
Properties by name. Names are compared without case and separators, and without a leading `is`.
-/

namespace OperationCheck.Unicode

/-- This function brings a name to the form in which the tables hold it. -/
def looseName (name : List Char) : String :=
  let body := match name with
    | first :: second :: rest =>
        if first.toLower = 'i' ∧ second.toLower = 's' then rest else name
    | _ => name
  String.ofList ((body.filter fun c => c ≠ ' ' ∧ c ≠ '_' ∧ c ≠ '-' ∧ c.toNat < 128).map Char.toLower)

/-- Three names stand for code points that no table holds as such. -/
def generalRanges? (name : String) : Option (List (Nat × Nat)) :=
  if name = "any" then some [(0, 0x10FFFF)]
  else if name = "ascii" then some [(0, 0x7F)]
  else none

/-- The assigned code points are those of all categories but one. -/
def assignedRanges : List (Nat × Nat) :=
  (categories.filter fun property => property.names.any fun name =>
    ["l", "m", "n", "p", "s", "z", "cc", "cf", "co"].contains name).flatMap Property.ranges

/-- This function finds a general category, or one of the three further sets. -/
def category? (name : String) : Option (List (Nat × Nat)) :=
  match generalRanges? name with
  | some ranges => some ranges
  | none =>
      if name = "assigned" then some assignedRanges
      else (named? categories name).map Property.ranges

/-- Three abbreviations are both a category and a property, and mean the category. -/
def binary? (name : String) : Option (List (Nat × Nat)) :=
  if name = "cf" ∨ name = "sc" ∨ name = "lc" then none
  else (named? binaryProperties name).map Property.ranges

def script? (name : String) : Option (List (Nat × Nat)) :=
  (named? scripts name).map Property.ranges

/-- A name alone is a binary property, a general category or a script. -/
def propertyNamed? (name : List Char) : Option (List (Nat × Nat)) :=
  let name := looseName name
  (binary? name).or ((category? name).or (script? name))

/-- An age holds what its version and the versions before it added. -/
def age? (name : String) : Option (List (Nat × Nat)) :=
  if ages.any fun property => property.names.contains name then
    let older := ages.takeWhile fun property => !property.names.contains name
    some ((older ++ (named? ages name).toList).flatMap Property.ranges)
  else none

/-- A property with a value is a category, a script, an age or a break class. -/
def propertyWithValue? (name value : List Char) : Option (List (Nat × Nat)) :=
  let name := looseName name
  let value := looseName value
  if name = "gc" ∨ name = "generalcategory" then category? value
  else if name = "sc" ∨ name = "script" then script? value
  else if name = "scx" ∨ name = "scriptextensions" then
    (named? scriptExtensions value).map Property.ranges
  else if name = "age" then age? value
  else if name = "gcb" ∨ name = "graphemeclusterbreak" then
    (named? graphemeBreaks value).map Property.ranges
  else if name = "wb" ∨ name = "wordbreak" then (named? wordBreaks value).map Property.ranges
  else if name = "sb" ∨ name = "sentencebreak" then (named? sentenceBreaks value).map Property.ranges
  else none

end OperationCheck.Unicode
