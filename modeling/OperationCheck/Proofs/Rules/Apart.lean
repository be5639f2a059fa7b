import OperationCheck.Proofs.Rules.Shape

/-!
Shapes that keep apart. A message that a pattern is found in holds all the literal pieces of the
pattern. A piece with a blank can only stand around a blank of the message, and the blanks of a
message are those of its shape. The main statement says that a pattern is not found in the messages
of a shape when one of its pieces fits around no blank of that shape.
-/

namespace OperationCheck.Rules

open OperationCheck.Glob OperationCheck.Pattern

/-- A cell of a message is one character, or it is filled with parts of names. -/
inductive Cell where
  | exact (c : Char)
  | names
deriving Repr, DecidableEq

def Part.cell : Part → Cell
  | .letter c => .exact c
  | .point => .exact '.'
  | .gap | .choice _ => .names

def Shape.cells (shape : Shape) : List Cell := shape.map Part.cell

def Cell.Holds : Cell → List Char → Prop
  | .exact c, text => text = [c]
  | .names, text => ∀ c ∈ text, isNamePart c = true

/-- Cells hold a text when each of them holds one part of it. -/
inductive CellsHold : List Cell → List Char → Prop where
  | nil : CellsHold [] []
  | cons {cell : Cell} {cells : List Cell} {front back : List Char} (first : cell.Holds front)
      (others : CellsHold cells back) : CellsHold (cell :: cells) (front ++ back)

/-- The words of a choice are parts of names. -/
def Part.isNamed : Part → Bool
  | .choice branches => branches.all fun branch => branch.all isNamePart
  | _ => true

/-- A message a shape writes is held by the cells of that shape, where its gaps stand for names. -/
theorem Shape.Writes.cellsHold {shape : Shape} {fillings : List (List Char)} {message : List Char}
    (writes : shape.Writes fillings message) (named : shape.all Part.isNamed = true) :
    CellsHold shape.cells message := by
  induction writes with
  | nil => exact .nil
  | letter _ ih | point _ ih => exact @CellsHold.cons (.exact _) _ [_] _ rfl (ih named)
  | gap areParts _ ih => exact .cons areParts (ih named)
  | choice chosen _ ih =>
      rw [List.all_cons, Bool.and_eq_true] at named
      exact .cons (List.all_eq_true.1 (List.all_eq_true.1 named.1 _ chosen)) (ih named.2)

/-- What a cell holds it holds backwards. -/
theorem Cell.Holds.reverse {cell : Cell} {text : List Char} (holds : cell.Holds text) :
    cell.Holds text.reverse := by
  cases cell with
  | exact c =>
      obtain rfl : text = [c] := holds
      rfl
  | names => exact fun c member => holds c (List.mem_reverse.1 member)

/-- Cells hold two texts behind one another as they hold each. -/
theorem CellsHold.append {first second : List Cell} {front back : List Char}
    (isFront : CellsHold first front) (isBack : CellsHold second back) :
    CellsHold (first ++ second) (front ++ back) := by
  induction isFront with
  | nil => exact isBack
  | cons holds _ ih =>
      rw [List.append_assoc]
      exact .cons holds ih

/-- The cells backwards hold the text backwards. -/
theorem CellsHold.reverse {cells : List Cell} {text : List Char} (hold : CellsHold cells text) :
    CellsHold cells.reverse text.reverse := by
  induction hold with
  | nil => exact .nil
  | cons holds _ ih =>
      rw [List.reverse_cons, List.reverse_append]
      have last := CellsHold.cons holds.reverse .nil
      rw [List.append_nil] at last
      exact ih.append last

/-- A blank is no part of a name, so it stands in a cell of its own. -/
theorem CellsHold.split {cells : List Cell} {before after : List Char}
    (hold : CellsHold cells (before ++ ' ' :: after)) :
    ∃ first second, cells = first ++ .exact ' ' :: second ∧ CellsHold first before ∧
      CellsHold second after := by
  generalize whole : before ++ ' ' :: after = text at hold
  induction hold generalizing before with
  | nil => simp at whole
  | @cons cell cells front back holds others ih =>
      rcases List.append_eq_append_iff.1 whole with ⟨rest, rfl, behind⟩ | ⟨rest, rfl, behind⟩
      · cases rest with
        | nil =>
            obtain ⟨first, second, rfl, isFirst, isSecond⟩ := @ih [] behind
            exact ⟨cell :: first, second, rfl, by simpa using CellsHold.cons holds isFirst, isSecond⟩
        | cons c rest =>
            obtain ⟨rfl, rfl⟩ := List.cons.inj behind
            cases cell with
            | names => exact absurd (holds ' ' (by simp)) (by decide)
            | exact c =>
                have alone : before ++ ' ' :: rest = [c] := holds
                obtain ⟨rfl, alone⟩ := List.append_eq_singleton_iff.1 alone |>.resolve_right (by simp)
                obtain ⟨rfl, rfl⟩ := List.cons.inj alone
                exact ⟨[], cells, rfl, .nil, others⟩
      · obtain ⟨first, second, rfl, isFirst, isSecond⟩ := ih behind.symm
        exact ⟨cell :: first, second, rfl, .cons holds isFirst, isSecond⟩

/-- What may be left of a text behind parts of names. -/
def restsOf : List Char → List (List Char)
  | [] => [[]]
  | c :: rest => (c :: rest) :: if isNamePart c then restsOf rest else []

/-- The text of some cells may begin with a word. -/
def mayBegin : List Cell → List Char → Bool
  | _, [] => true
  | [], _ :: _ => false
  | .exact c :: cells, d :: word => if c = d then mayBegin cells word else false
  | .names :: cells, d :: word => (restsOf (d :: word)).any (mayBegin cells)

/-- A word that begins behind some characters of a name begins with its own rest behind them. -/
theorem exists_rest {front back word : List Char} (areParts : ∀ c ∈ front, isNamePart c = true)
    (begins : word <+: front ++ back) : ∃ rest ∈ restsOf word, rest <+: back := by
  induction front generalizing word with
  | nil => exact ⟨word, by cases word <;> simp [restsOf], begins⟩
  | cons c front ih =>
      obtain ⟨isPart, others⟩ := List.forall_mem_cons.1 areParts
      cases word with
      | nil => exact ⟨[], by simp [restsOf], List.nil_prefix⟩
      | cons d word =>
          obtain ⟨rfl, goesOn⟩ := List.cons_prefix_cons.1 begins
          obtain ⟨rest, member, isPrefix⟩ := ih others goesOn
          exact ⟨rest, by simp [restsOf, isPart, member], isPrefix⟩

/-- If a word begins the text, the cells allow it: the test errs on no text. -/
theorem CellsHold.mayBegin {cells : List Cell} {text word : List Char} (hold : CellsHold cells text)
    (begins : word <+: text) : mayBegin cells word = true := by
  induction hold generalizing word with
  | nil => rw [List.prefix_nil.1 begins, Rules.mayBegin]
  | @cons cell cells front back holds _ ih =>
      cases word with
      | nil => rw [Rules.mayBegin]
      | cons d word =>
          cases cell with
          | exact c =>
              obtain rfl : front = [c] := holds
              obtain ⟨rfl, goesOn⟩ := List.cons_prefix_cons.1 begins
              rw [Rules.mayBegin, if_pos rfl, ih goesOn]
          | names =>
              obtain ⟨rest, member, begins⟩ := exists_rest holds begins
              rw [Rules.mayBegin]
              exact List.any_eq_true.2 ⟨rest, member, ih begins⟩

/-- The blanks of a row of cells, with the cells before each of them in reverse order and the cells
behind it. -/
def blanksFrom (passed : List Cell) : List Cell → List (List Cell × List Cell)
  | [] => []
  | cell :: cells =>
      if cell = .exact ' ' then (passed, cells) :: blanksFrom (cell :: passed) cells
      else blanksFrom (cell :: passed) cells

/-- Each blank between the cells is one of the cuts the test looks at. -/
theorem mem_blanksFrom (passed first second : List Cell) :
    (first.reverse ++ passed, second) ∈ blanksFrom passed (first ++ .exact ' ' :: second) := by
  induction first generalizing passed with
  | nil =>
      rw [List.nil_append, blanksFrom, if_pos rfl]
      exact List.mem_cons_self
  | cons cell first ih =>
      have found := ih (cell :: passed)
      rw [List.cons_append, blanksFrom, List.reverse_cons, List.append_assoc, List.singleton_append]
      split
      · exact List.mem_cons_of_mem _ found
      · exact found

/-- The first blank of a piece, with what is before it in reverse order and what is behind it. -/
def firstBlank (passed : List Char) : List Char → Option (List Char × List Char)
  | [] => none
  | c :: piece => if c = ' ' then some (passed, piece) else firstBlank (c :: passed) piece

/-- Cutting a piece at its first blank loses nothing of it. -/
theorem of_firstBlank {passed piece before after : List Char}
    (found : firstBlank passed piece = some (before, after)) :
    passed.reverse ++ piece = before.reverse ++ ' ' :: after := by
  induction piece generalizing passed with
  | nil => cases found
  | cons c piece ih =>
      rw [firstBlank] at found
      split at found
      · next blank =>
          cases found
          rw [blank]
      · simpa using ih found

/-- A piece may stand around one of the blanks. -/
def mayStand (blanks : List (List Cell × List Cell)) (piece : List Char × List Char) : Bool :=
  blanks.any fun blank => mayBegin blank.2 piece.2 && mayBegin blank.1 piece.1

/-- A piece with a blank that stands in the text stands at one of the blanks of the cells, so a test
that refuses them all is right. -/
theorem CellsHold.mayStand {cells : List Cell} {text piece before after : List Char}
    (hold : CellsHold cells text) (stands : piece <:+: text)
    (found : firstBlank [] piece = some (before, after)) :
    mayStand (blanksFrom [] cells) (before, after) = true := by
  obtain ⟨front, back, rfl⟩ := stands
  have split : piece = before.reverse ++ ' ' :: after := of_firstBlank found
  have whole : front ++ piece ++ back = (front ++ before.reverse) ++ ' ' :: (after ++ back) := by
    rw [split]
    simp only [List.append_assoc, List.cons_append]
  rw [whole] at hold
  obtain ⟨first, second, rfl, isFirst, isSecond⟩ := hold.split
  have isBlank := mem_blanksFrom [] first second
  rw [List.append_nil] at isBlank
  refine List.any_eq_true.2 ⟨_, isBlank, Bool.and_eq_true_iff.2 ⟨?_, ?_⟩⟩
  · exact isSecond.mayBegin (List.prefix_append _ _)
  · refine isFirst.reverse.mayBegin ?_
    rw [List.reverse_append, List.reverse_reverse]
    exact List.prefix_append _ _

/-- The literal pieces of a shape, behind a run of characters in reverse order. -/
def piecesFrom : List Char → Shape → List (List Char)
  | run, [] => [run.reverse]
  | run, .letter c :: shape => piecesFrom (c :: run) shape
  | run, _ :: shape => run.reverse :: piecesFrom [] shape

/-- A word of the pattern of a shape holds all its pieces. -/
theorem infix_of_mem_piecesFrom {shape : Shape} {word run piece : List Char}
    (isWord : DerivesAll (shape.map Part.pattern) word) (member : piece ∈ piecesFrom run shape) :
    piece <:+: run.reverse ++ word := by
  induction shape generalizing word run with
  | nil =>
      rw [List.mem_singleton.1 member]
      exact (List.prefix_append _ _).isInfix
  | cons part shape ih =>
      obtain _ | ⟨isFront, isBack⟩ := isWord
      next front back =>
        cases part with
        | letter c =>
            obtain ⟨d, accepted, rfl⟩ := (derives_one_iff _ _).1 isFront
            obtain rfl := (single_contains_iff c d).1 accepted
            simpa using @ih back (d :: run) isBack member
        | point | gap | choice =>
            rcases List.mem_cons.1 member with rfl | later
            · exact (List.prefix_append _ _).isInfix
            · have inBack := ih isBack later
              exact inBack.trans (List.suffix_append_of_suffix (List.suffix_append _ _)).isInfix

def Shape.pieces (shape : Shape) : List (List Char × List Char) :=
  (piecesFrom [] shape).filterMap (firstBlank [])

def Shape.blanks (shape : Shape) : List (List Cell × List Cell) := blanksFrom [] shape.cells

/-- A shape is apart from another one when one of its pieces with a blank fits around no blank of
the other one. -/
def isApart (pieces : List (List Char × List Char)) (blanks : List (List Cell × List Cell)) : Bool :=
  pieces.any fun piece => !mayStand blanks piece

/-- A pattern is not found in the messages of a shape that its own is apart from. -/
theorem isFound_eq_false_of_isApart {shape other : Shape} {fillings : List (List Char)}
    {message : List Char} (apart : isApart other.pieces shape.blanks = true)
    (named : shape.all Part.isNamed = true) (writes : shape.Writes fillings message) :
    isFound other.pattern message = false := by
  refine Bool.eq_false_iff.2 fun found => ?_
  obtain ⟨word, isWord, inMessage⟩ := Shape.exists_word found
  obtain ⟨⟨before, after⟩, isPiece, fits⟩ := List.any_eq_true.1 apart
  obtain ⟨piece, member, split⟩ := List.mem_filterMap.1 isPiece
  have inWord := infix_of_mem_piecesFrom isWord member
  rw [List.reverse_nil, List.nil_append] at inWord
  have stands := (writes.cellsHold named).mayStand (inWord.trans inMessage) split
  rw [Shape.blanks, stands] at fits
  cases fits

end OperationCheck.Rules
