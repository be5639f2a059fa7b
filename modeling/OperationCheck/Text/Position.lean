/-!
Places in a source text, counted from zero in lines and characters. A line ends at a line feed.
-/

namespace OperationCheck.Text

/-- A position counts the line feeds before a character and the characters since the last one. -/
structure Position where
  line : Nat
  column : Nat
deriving Repr, DecidableEq, BEq

def Position.start : Position := ⟨0, 0⟩

/-- A line feed opens a new line, and any other character moves one column. -/
def Position.next (position : Position) (c : Char) : Position :=
  if c = '\n' then ⟨position.line + 1, 0⟩ else ⟨position.line, position.column + 1⟩

/-- This is the position after a text that begins at the given one. -/
def Position.after (position : Position) (text : List Char) : Position :=
  text.foldl Position.next position

@[simp] theorem Position.after_nil (position : Position) : position.after [] = position := rfl

/-- Going past a text goes past its first character and then the others. -/
@[simp] theorem Position.after_cons (position : Position) (c : Char) (text : List Char) :
    position.after (c :: text) = (position.next c).after text := rfl

/-- Going past two texts goes past the first and then the second. -/
theorem Position.after_append (position : Position) (first second : List Char) :
    position.after (first ++ second) = (position.after first).after second := by
  simp [Position.after, List.foldl_append]

end OperationCheck.Text
