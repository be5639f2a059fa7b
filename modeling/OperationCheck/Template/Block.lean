import OperationCheck.Template.Body
import OperationCheck.Template.Opener
import OperationCheck.Text.Position

/-!
Operations embedded in source code. A source is read from left to right: an opener begins a
block, the block ends at its closing backtick, and reading goes on behind it. The first template
that never closes ends the search.
-/

namespace OperationCheck.Template

open OperationCheck.Text

/-- A block has the position of its first character and its blanked text. -/
structure Block where
  position : Position
  text : List Char
deriving Repr, DecidableEq

/-- This function searches a source that begins at a position, behind a given character. -/
def blocksFrom (before : Option Char) (position : Position) (source : List Char) : List Block :=
  match source with
  | [] => []
  | c :: rest =>
      match _opener : matchOpener before (c :: rest) with
      | none => blocksFrom (some c) (position.next c) rest
      | some (opening, inside) =>
          match _body : read inside with
          | none => []
          | some (text, remaining) =>
              let start := position.after opening
              ⟨start, text⟩ ::
                blocksFrom (some '\x60') ((start.after text).next '\x60') remaining
termination_by source.length
decreasing_by
  · simp
  · have first := matchOpener_shorter _opener
    have second := read_shorter _body
    simp only [List.length_cons] at first ⊢
    omega

/-- The blocks of a source are in the order in which they begin. -/
def blocks (source : List Char) : List Block := blocksFrom none .start source

/-- A positioned text has blank lines and blank columns before it, so that each of its characters
has the position that it has in the source. -/
def Block.positioned (block : Block) : List Char :=
  List.replicate block.position.line '\n' ++ List.replicate block.position.column ' '
    ++ block.text

/-- The operations of a source are its blocks that are not blank, each as a text of its own. -/
def operations (source : List Char) : List (List Char) :=
  ((blocks source).filter fun block => !isBlankText block.text).map Block.positioned

end OperationCheck.Template
