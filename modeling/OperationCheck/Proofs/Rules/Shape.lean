import OperationCheck.Proofs.Glob.Words
import OperationCheck.Rules.Table

/-!
Shapes of messages. The pattern of a rule is a message with gaps, which is written as a text. The
main statement says that a text which is the writing of its shape is read as the pattern of that
shape, so that the pattern is found in every message of the shape.
-/

namespace OperationCheck.Rules

open OperationCheck.Glob OperationCheck.Pattern

/-- A part of a shape is a character, a dot that stands for any character, a gap, or a choice
between words. -/
inductive Part where
  | letter (c : Char)
  | point
  | gap
  | choice (branches : List (List Char))
deriving Repr, DecidableEq

abbrev Shape := List Part

/-- What stands in parentheses is a gap or a choice. -/
def Part.ofGroup (inner : List Char) : Part :=
  if inner = ['.', '*'] then .gap else .choice (inner.splitOn '|')

/-- This function reads a shape. Inside parentheses, it has what was read there in reverse
order. -/
def Shape.readFrom : Option (List Char) → List Char → Shape
  | _, [] => []
  | none, '(' :: rest => readFrom (some []) rest
  | none, '\\' :: c :: rest => .letter c :: readFrom none rest
  | none, '.' :: rest => .point :: readFrom none rest
  | none, c :: rest => .letter c :: readFrom none rest
  | some held, ')' :: rest => Part.ofGroup held.reverse :: readFrom none rest
  | some held, c :: rest => readFrom (some (c :: held)) rest

/-- The shape of a pattern as it is written. -/
def Shape.ofText (text : String) : Shape := readFrom none text.toList

/-- Names and types are made of these characters. -/
def isNamePart (c : Char) : Bool := c.isAlphanum || ['_', '$', '@', '[', ']', '!'].contains c

/-- A shape with its gaps filled is a message. The fillings are names and types, or parts of
them. -/
inductive Shape.Writes : Shape → List (List Char) → List Char → Prop where
  | nil : Writes [] [] []
  | letter {c : Char} {shape : Shape} {fillings : List (List Char)} {message : List Char}
      (rest : Writes shape fillings message) : Writes (.letter c :: shape) fillings (c :: message)
  | point {shape : Shape} {fillings : List (List Char)} {message : List Char}
      (rest : Writes shape fillings message) : Writes (.point :: shape) fillings ('.' :: message)
  | gap {filling : List Char} (areParts : ∀ c ∈ filling, isNamePart c = true) {shape : Shape}
      {fillings : List (List Char)} {message : List Char} (rest : Writes shape fillings message) :
      Writes (.gap :: shape) (filling :: fillings) (filling ++ message)
  | choice {branches : List (List Char)} {branch : List Char} (chosen : branch ∈ branches)
      {shape : Shape} {fillings : List (List Char)} {message : List Char}
      (rest : Writes shape fillings message) :
      Writes (.choice branches :: shape) fillings (branch ++ message)

/-- A dot does not stand for a line feed. -/
def onLine : CharSet := .complement (.single '\n')

def single (c : Char) : Pattern := .one (.single c)

def wordPattern (word : List Char) : Pattern := inOrder (word.map single)

/-- A gap takes any text on one line. -/
def Part.pattern : Part → Pattern
  | .letter c => single c
  | .point => .one onLine
  | .gap => .repeated 0 none (.one onLine)
  | .choice branches => oneOf (branches.map wordPattern)

def Shape.pattern (shape : Shape) : Pattern := inOrder (shape.map Part.pattern)

/-- These characters have a meaning of their own in a pattern. -/
def marks : List Char :=
  ['\\', '.', '+', '*', '?', '(', ')', '|', '[', ']', '\x7b', '\x7d', '^', '$']

/-- A part is written with a backslash before each mark that stands for itself. -/
def Part.text : Part → List Char
  | .letter c => if c ∈ marks then ['\\', c] else [c]
  | .point => ['.']
  | .gap => ['(', '.', '*', ')']
  | .choice branches => '(' :: (['|'].intercalate branches ++ [')'])

def Shape.text (shape : Shape) : List Char := shape.flatMap Part.text

/-- A choice has words, and they are written without marks. -/
def Part.isPlain : Part → Bool
  | .choice branches => !branches.isEmpty && branches.all fun branch => branch.all (· ∉ marks)
  | _ => true

def letterPiece (c : Char) : Piece := ⟨single c, 0, stateSize * c.utf8Size, true⟩

/-- The alternatives of a choice, behind those that are finished. -/
def branchesOf (finished : List Piece) : List (List Char) → Branches
  | [] => ⟨finished, []⟩
  | [word] => ⟨finished, (word.map letterPiece).reverse⟩
  | word :: words => branchesOf (sequence (word.map letterPiece).reverse :: finished) words

/-- Each part is read as one piece. -/
def Part.piece : Part → Piece
  | .letter c => letterPiece c
  | .point => setPiece onLine 0
  | .gap => ⟨.repeated 0 none (.one onLine), 2, setSize onLine + 4 * stateSize, true⟩
  | .choice branches =>
      let inner := (branchesOf [] branches).close
      ⟨inner.pattern, inner.depth + 1, inner.size + 2 * stateSize, true⟩

def Shape.piece (shape : Shape) : Piece := sequence (shape.map Part.piece).reverse

/-- A text is a writing when it is how its shape is written, and when it is not too large. -/
def isWriting (text : List Char) : Bool :=
  let shape := Shape.readFrom none text
  shape.text == text && shape.all Part.isPlain && shape.piece.depth ≤ depthLimit &&
    shape.piece.size ≤ sizeLimit

section reading

variable {reading : Pattern.Reading}

/-- A character without a meaning of its own is read as itself. -/
theorem readItem_plain {c : Char} (flags : reading.flags = .default) (plain : c ∉ marks)
    (rest : List Char) : readItem reading c rest = some (reading.push (letterPiece c), rest) := by
  unfold readItem
  split
  all_goals first
    | exact absurd (by decide) plain
    | rw [flags]; rfl

/-- Behind a backslash, a mark stands for itself. -/
theorem readItem_mark {c : Char} (flags : reading.flags = .default) (mark : c ∈ marks)
    (rest : List Char) :
    readItem reading '\\' (c :: rest) = some (reading.push (letterPiece c), rest) := by
  have ascii := List.all_eq_true.1 (by decide : (marks.all fun mark =>
    mark.toNat < 128 && !mark.isAlphanum && mark != '<' && mark != '>') = true)
  have escapable : isEscapable c = true := by rw [isEscapable, ascii c mark, Bool.or_true]
  have noSets := List.all_eq_true.1
    (by decide : (marks.all fun mark => (namedSet? .default mark).isNone) = true)
  have noSet : namedSet? .default c = none := Option.isNone_iff_eq_none.1 (noSets c mark)
  have escape : readEscape .default (c :: rest) = some (.literal c false, rest) := by
    simp only [readEscape, noSet, escapable, if_pos]
  simp only [readItem, flags, escape]
  rfl

/-- Without the flag for free spacing the reader skips nothing. -/
theorem skip_default (source : List Char) : Flags.default.skip source = source := rfl

/-- One round of the reader, at a character: one item is read and the others follow. -/
theorem readItems_succ (flags : reading.flags = .default) (fuel : Nat) (c : Char)
    (rest : List Char) :
    readItems (fuel + 1) reading (c :: rest) =
      (readItem reading c rest).bind fun (reading, rest) => readItems fuel reading rest := by
  rw [readItems, flags]
  rfl

/-- A letter of a shape, escaped where it is a mark, is read back as that letter. -/
theorem readItems_letter (flags : reading.flags = .default) (fuel : Nat) (c : Char)
    (rest : List Char) :
    readItems (fuel + 1) reading ((Part.letter c).text ++ rest) =
      readItems fuel (reading.push (letterPiece c)) rest := by
  by_cases mark : c ∈ marks
  · rw [Part.text, if_pos mark, List.cons_append, List.cons_append, readItems_succ flags,
      readItem_mark flags mark]
    rfl
  · rw [Part.text, if_neg mark, List.cons_append, readItems_succ flags,
      readItem_plain flags mark]
    rfl

/-- The text of a gap is read in four rounds, as a gap. -/
theorem readItems_gap (flags : reading.flags = .default) (fuel : Nat) (rest : List Char) :
    readItems (fuel + 4) reading (Part.gap.text ++ rest) =
      readItems fuel (reading.push Part.gap.piece) rest := by
  obtain ⟨groups, ⟨finished, current⟩, _, names⟩ := reading
  obtain rfl := flags
  rfl

/-- The characters of a word are read one after the other. -/
theorem readItems_word {word : List Char} (plain : ∀ c ∈ word, c ∉ marks) (fuel : Nat)
    (groups : List Group) (finished current : List Piece) (names : List (List Char))
    (rest : List Char) :
    readItems (fuel + word.length) ⟨groups, ⟨finished, current⟩, .default, names⟩ (word ++ rest) =
      readItems fuel
        ⟨groups, ⟨finished, (word.map letterPiece).reverse ++ current⟩, .default, names⟩ rest := by
  induction word generalizing current with
  | nil => rfl
  | cons c word ih =>
      obtain ⟨first, others⟩ := List.forall_mem_cons.1 plain
      rw [List.length_cons, ← Nat.add_assoc, List.cons_append, readItems_succ rfl,
        readItem_plain rfl first, Option.bind_some]
      simp only [Pattern.Reading.push, Branches.push, ih others, List.map_cons, List.reverse_cons,
        List.append_assoc, List.singleton_append]

/-- The words of a choice are read one after the other. -/
theorem readItems_branches {branches : List (List Char)}
    (plain : ∀ branch ∈ branches, ∀ c ∈ branch, c ∉ marks) (fuel : Nat) (groups : List Group)
    (finished : List Piece) (names : List (List Char)) (rest : List Char) :
    readItems (fuel + (['|'].intercalate branches).length)
        ⟨groups, ⟨finished, []⟩, .default, names⟩ (['|'].intercalate branches ++ rest) =
      readItems fuel ⟨groups, branchesOf finished branches, .default, names⟩ rest := by
  induction branches generalizing finished with
  | nil => rfl
  | cons word branches ih =>
      obtain ⟨first, others⟩ := List.forall_mem_cons.1 plain
      cases branches with
      | nil =>
          rw [List.intercalate_singleton, readItems_word first, List.append_nil]
          rfl
      | cons second branches =>
          have whole : ['|'].intercalate (word :: second :: branches) =
              word ++ '|' :: ['|'].intercalate (second :: branches) := by
            rw [List.intercalate_cons_cons]
            simp
          have enough : fuel + (word ++ '|' :: ['|'].intercalate (second :: branches)).length =
              (fuel + (['|'].intercalate (second :: branches)).length + 1) + word.length := by
            rw [List.length_append, List.length_cons]
            omega
          rw [whole, enough, List.append_assoc, readItems_word first, List.append_nil,
            List.cons_append, readItems_succ rfl]
          exact ih others (sequence (word.map letterPiece).reverse :: finished)

/-- A choice does not begin like a group with flags. -/
theorem head_choice {branches : List (List Char)}
    (plain : ∀ branch ∈ branches, ∀ c ∈ branch, c ∉ marks) (nonempty : branches ≠ [])
    (rest : List Char) : (['|'].intercalate branches ++ ')' :: rest).head? ≠ some '?' := by
  cases branches with
  | nil => exact absurd rfl nonempty
  | cons word branches =>
      cases word with
      | nil => cases branches <;> simp
      | cons c word =>
          have other : c ≠ '?' := by
            rintro rfl
            exact plain _ List.mem_cons_self '?' List.mem_cons_self (by decide)
          cases branches <;> simpa using other

/-- A parenthesis without a question mark behind it opens a group that captures. -/
theorem openParenthesis_group {source : List Char} (flags : reading.flags = .default)
    (noFlags : source.head? ≠ some '?') :
    openParenthesis reading source = some (reading.openGroup reading.flags true, source) := by
  have skipped : reading.flags.skip source = source := by
    rw [flags]
    rfl
  rw [openParenthesis, skipped]
  split
  all_goals first
    | exact absurd rfl noFlags
    | rfl

/-- A choice is read as the group of its branches, with a round for each character and
parenthesis. -/
theorem readItems_choice {branches : List (List Char)}
    (plain : ∀ branch ∈ branches, ∀ c ∈ branch, c ∉ marks) (nonempty : branches ≠ [])
    (flags : reading.flags = .default) (fuel : Nat) (rest : List Char) :
    readItems (fuel + (['|'].intercalate branches).length + 2) reading
        ((Part.choice branches).text ++ rest) =
      readItems fuel (reading.push (Part.choice branches).piece) rest := by
  obtain ⟨groups, ⟨finished, current⟩, _, names⟩ := reading
  obtain rfl := flags
  have noFlags := head_choice plain nonempty rest
  have text : (Part.choice branches).text ++ rest =
      '(' :: (['|'].intercalate branches ++ ')' :: rest) := by simp [Part.text]
  rw [text, readItems_succ rfl]
  change (openParenthesis _ _).bind _ = _
  rw [openParenthesis_group rfl noFlags, Option.bind_some, Nat.add_right_comm]
  simp only [Reading.openGroup, Branches.start]
  rw [readItems_branches plain, readItems_succ rfl]
  rfl

/-- The number of steps in which a part is read. -/
def Part.steps : Part → Nat
  | .letter _ | .point => 1
  | .gap => 4
  | .choice branches => (['|'].intercalate branches).length + 2

/-- A part needs no more rounds than its text has characters. -/
theorem steps_le_length (part : Part) : part.steps ≤ part.text.length := by
  cases part with
  | letter c => by_cases mark : c ∈ marks <;> simp [Part.steps, Part.text, mark]
  | point | gap => exact Nat.le_refl _
  | choice branches => simp only [Part.steps, Part.text, List.length_cons, List.length_append,
      List.length_nil, Nat.le_refl]

/-- Each part is read as its piece. -/
theorem readItems_part {part : Part} (plain : part.isPlain = true)
    (flags : reading.flags = .default) (fuel : Nat) (rest : List Char) :
    readItems (fuel + part.steps) reading (part.text ++ rest) =
      readItems fuel (reading.push part.piece) rest := by
  cases part with
  | letter c => exact readItems_letter flags fuel c rest
  | point =>
      obtain ⟨groups, ⟨finished, current⟩, _, names⟩ := reading
      obtain rfl := flags
      rfl
  | gap => exact readItems_gap flags fuel rest
  | choice branches =>
      simp only [Part.isPlain, Bool.and_eq_true, Bool.not_eq_true', List.isEmpty_eq_false_iff,
        List.all_eq_true, decide_eq_true_eq] at plain
      exact readItems_choice plain.2 plain.1 flags fuel rest

/-- The text of a shape is read as the pieces of its parts, the last one first. -/
theorem readItems_shape {shape : Shape} (plain : shape.all Part.isPlain = true) (fuel : Nat)
    (current : List Piece) :
    readItems (fuel + (shape.map Part.steps).sum) ⟨[], ⟨[], current⟩, .default, []⟩ shape.text =
      readItems fuel
        ⟨[], ⟨[], (shape.map Part.piece).reverse ++ current⟩, .default, []⟩ [] := by
  induction shape generalizing current with
  | nil => rfl
  | cons part shape ih =>
      rw [List.all_cons, Bool.and_eq_true] at plain
      have enough : fuel + ((part :: shape).map Part.steps).sum =
          fuel + (shape.map Part.steps).sum + part.steps := by
        rw [List.map_cons, List.sum_cons]
        omega
      rw [enough, Shape.text, List.flatMap_cons, readItems_part plain.1 rfl]
      have others := ih plain.2 (part.piece :: current)
      simpa [Pattern.Reading.push, Branches.push, Shape.text] using others

end reading

/-- A shape needs no more rounds than its text has characters. -/
theorem sum_steps_le (shape : Shape) : (shape.map Part.steps).sum ≤ shape.text.length := by
  induction shape with
  | nil => exact Nat.le_refl _
  | cons part shape ih =>
      rw [Shape.text] at ih ⊢
      rw [List.map_cons, List.sum_cons, List.flatMap_cons, List.length_append]
      exact Nat.add_le_add (steps_le_length part) ih

/-- Pieces that were read last come first, and joining them turns them around. -/
theorem foldl_join {join : List Pattern → Pattern} {pair : Pattern → Pattern → Pattern}
    (one : ∀ pattern, join [pattern] = pattern)
    (more : ∀ pattern second rest,
      join (pattern :: second :: rest) = pair pattern (join (second :: rest)))
    (before : List Piece) (last : Pattern) :
    before.foldl (fun pattern piece => pair piece.pattern pattern) last =
      join ((before.map Piece.pattern).reverse ++ [last]) := by
  rw [List.foldl_eq_foldr_reverse, ← List.map_reverse]
  induction before.reverse with
  | nil => exact (one last).symm
  | cons piece pieces ih =>
      rw [List.foldr_cons, ih, List.map_cons, List.cons_append]
      cases pieces <;> exact (more _ _ _).symm

/-- The pieces of a sequence stand in the pattern in the order they were read in. -/
theorem sequence_pattern (pieces : List Piece) :
    (sequence pieces).pattern = inOrder (pieces.map Piece.pattern).reverse := by
  match pieces with
  | [] | [_] => rfl
  | last :: second :: before =>
      rw [List.map_cons, List.reverse_cons]
      exact foldl_join (fun _ => rfl) (fun _ _ _ => rfl) (second :: before) last.pattern

/-- A word read letter by letter is the pattern of that word. -/
theorem wordPiece_pattern (word : List Char) :
    (sequence (word.map letterPiece).reverse).pattern = wordPattern word := by
  rw [sequence_pattern, List.map_reverse, List.reverse_reverse, List.map_map]
  rfl

/-- The branches of a group become the alternatives of the pattern, behind those it had. -/
theorem branchesOf_pattern {branches : List (List Char)} (nonempty : branches ≠ [])
    (finished : List Piece) :
    (branchesOf finished branches).close.pattern =
      oneOf ((finished.map Piece.pattern).reverse ++ branches.map wordPattern) := by
  induction branches generalizing finished with
  | nil => exact absurd rfl nonempty
  | cons word branches ih =>
      cases branches with
      | nil =>
          have isLast := wordPiece_pattern word
          cases finished with
          | nil => exact isLast
          | cons =>
              rw [List.map_singleton, ← isLast]
              exact foldl_join (fun _ => rfl) (fun _ _ _ => rfl) _ _
      | cons second branches =>
          have next := ih (List.cons_ne_nil _ _) (sequence (word.map letterPiece).reverse :: finished)
          rw [List.map_cons, List.reverse_cons, wordPiece_pattern, List.append_assoc] at next
          exact next

/-- The piece a plain part is read as denotes the pattern of that part. -/
theorem piece_pattern {part : Part} (plain : part.isPlain = true) :
    part.piece.pattern = part.pattern := by
  cases part with
  | letter | point | gap => rfl
  | choice branches =>
      simp only [Part.isPlain, Bool.and_eq_true, Bool.not_eq_true', List.isEmpty_eq_false_iff]
        at plain
      exact branchesOf_pattern plain.1 []

/-- A writing is read as the pattern of its shape. -/
theorem ofText_of_writing {text : List Char} (writing : isWriting text = true) :
    ofText? text = some (Shape.readFrom none text).pattern := by
  simp only [isWriting, Bool.and_eq_true, beq_iff_eq, decide_eq_true_eq] at writing
  obtain ⟨⟨⟨written, plain⟩, shallow⟩, small⟩ := writing
  generalize Shape.readFrom none text = shape at *
  subst written
  obtain ⟨fuel, enough⟩ := Nat.exists_eq_add_of_le (sum_steps_le shape)
  have read := readItems_shape plain (fuel + 1) []
  rw [Nat.add_right_comm, Nat.add_comm fuel, ← enough, List.append_nil] at read
  have whole : Branches.close ⟨[], (shape.map Part.piece).reverse⟩ = shape.piece := rfl
  have pattern : shape.piece.pattern = shape.pattern := by
    rw [Shape.piece, sequence_pattern, List.map_reverse, List.reverse_reverse, List.map_map]
    exact congrArg inOrder (List.map_congr_left fun part member =>
      piece_pattern (List.all_eq_true.1 plain part member))
  rw [ofText?, Branches.start, read, readItems, skip_default, Option.bind_some]
  simp only [whole, List.isEmpty_nil, shallow, small, pattern, decide_true, Bool.and_true, if_true]

theorem single_contains_iff (c d : Char) : (CharSet.single c).contains d = true ↔ d = c :=
  (byteSet_contains_iff c.toNat d).trans ⟨char_eq_of_toNat, congrArg Char.toNat⟩

theorem derives_single (c : Char) : Derives (single c) [c] := .one ((single_contains_iff c c).2 rfl)

/-- The dot matches every character but the line feed. -/
theorem onLine_contains {c : Char} (visible : c ≠ '\n') : onLine.contains c = true := by
  have other : ¬(CharSet.single '\n').contains c = true :=
    fun same => visible ((single_contains_iff _ _).1 same)
  simpa [onLine, CharSet.contains, CharSet.holds] using other

/-- A word matches itself. -/
theorem derives_wordPattern (word : List Char) : Derives (wordPattern word) word := by
  refine (derives_inOrder_iff _ _).2 ?_
  induction word with
  | nil => exact .nil
  | cons c word ih => exact @DerivesAll.cons _ _ [c] word (derives_single c) ih

/-- What one alternative matches the choice matches. -/
theorem derives_oneOf_of_mem {patterns : List Pattern} {pattern : Pattern}
    (member : pattern ∈ patterns) {word : List Char} (isWord : Derives pattern word) :
    Derives (oneOf patterns) word := by
  induction patterns with
  | nil => cases member
  | cons first patterns ih =>
      cases patterns with
      | nil => rwa [← List.mem_singleton.1 member]
      | cons second rest =>
          rcases List.mem_cons.1 member with rfl | later
          · exact .left isWord
          · exact .right (ih later)

/-- A message of a shape is a word of its pattern. -/
theorem Shape.Writes.derives {shape : Shape} {fillings : List (List Char)} {message : List Char}
    (writes : shape.Writes fillings message) : Derives shape.pattern message := by
  refine (derives_inOrder_iff _ _).2 ?_
  induction writes with
  | nil => exact .nil
  | @letter c _ _ message _ ih => exact @DerivesAll.cons _ _ [c] message (derives_single c) ih
  | @point _ _ message _ ih =>
      exact @DerivesAll.cons _ _ ['.'] message (.one (onLine_contains (by decide))) ih
  | gap areParts _ ih =>
      refine .cons ((derives_star_iff _ _).2 fun c member => onLine_contains ?_) ih
      rintro rfl
      exact absurd (areParts _ member) (by decide)
  | choice chosen _ ih =>
      exact .cons (derives_oneOf_of_mem (List.mem_map_of_mem chosen) (derives_wordPattern _)) ih

/-- The pattern of a shape is found wherever one of its messages stands. -/
theorem Shape.Writes.isFound {shape : Shape} {fillings : List (List Char)} {message text : List Char}
    (writes : shape.Writes fillings message) (stands : message <:+: text) :
    Pattern.isFound shape.pattern text = true := by
  obtain ⟨before, after, rfl⟩ := stands
  have split : (before ++ message ++ after).drop before.length = message ++ after := by
    rw [List.append_assoc, List.drop_left]
  have inside : before.length ≤ (before ++ message ++ after).length := by
    rw [List.append_assoc, List.length_append]
    exact Nat.le_add_right _ _
  exact (isFound_iff_occurs _ _).2 ⟨_, _, inside, writes.derives.matches split⟩

/-- The pattern of a part has no assertions. -/
theorem isPlain_part (part : Part) : part.pattern.IsPlain := by
  cases part with
  | letter | point | gap => trivial
  | choice branches =>
      refine isPlain_oneOf fun pattern member => ?_
      obtain ⟨word, -, rfl⟩ := List.mem_map.1 member
      refine isPlain_inOrder fun pattern member => ?_
      obtain ⟨c, -, rfl⟩ := List.mem_map.1 member
      trivial

/-- A message in which the pattern of a shape is found holds a word of that pattern. -/
theorem Shape.exists_word {shape : Shape} {message : List Char}
    (found : Pattern.isFound shape.pattern message = true) :
    ∃ word, DerivesAll (shape.map Part.pattern) word ∧ word <:+: message := by
  obtain ⟨start, stop, -, isMatch⟩ := (isFound_iff_occurs _ _).1 found
  have plain : shape.pattern.IsPlain := isPlain_inOrder fun pattern member => by
    obtain ⟨part, -, rfl⟩ := List.mem_map.1 member
    exact isPlain_part part
  obtain ⟨word, isWord, split⟩ := isMatch.exists_word plain
  refine ⟨word, (derives_inOrder_iff _ _).1 isWord, message.take start, message.drop stop, ?_⟩
  rw [List.append_assoc, ← split, List.take_append_drop]

end OperationCheck.Rules
