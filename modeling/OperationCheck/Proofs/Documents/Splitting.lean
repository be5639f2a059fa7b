import Mathlib.Data.List.TakeWhile
import OperationCheck.Proofs.Documents.Discovery

/-!
Cutting a pointer into a directory and a pattern. The main statement says that nothing of a pointer
is lost, that the directory is its longest beginning without the marks of globs, and that pointers
are cut in the same way exactly when they are spellings of the same path.
-/

namespace OperationCheck.Documents

open OperationCheck.Files

/-- A name with one of these marks is a glob. -/
def HasMark (name : String) : Prop := ∃ mark ∈ globMarks, mark ∈ name.toList

/-- An empty pattern has no segments. -/
def segments (pattern : String) : List String := if pattern = "" then [] else pieces pattern

/-- The components in front of the first glob. -/
def literalPart (pointer : String) : List Component :=
  ((components pointer).filter (· ≠ .current)).takeWhile fun component =>
    !isGlobComponent component

/-- The first glob and all components behind it. -/
def globPart (pointer : String) : List Component :=
  ((components pointer).filter (· ≠ .current)).dropWhile fun component =>
    !isGlobComponent component

/-- The two parts are all the components of the pointer. -/
theorem literalPart_append (pointer : String) :
    literalPart pointer ++ globPart pointer = (components pointer).filter (· ≠ .current) :=
  List.takeWhile_append_dropWhile

/-- Each half of the cut is the path of its part. -/
theorem splitGlob_eq (pointer : String) :
    splitGlob pointer = (pathOf (literalPart pointer), pathOf (globPart pointer)) := rfl

/-- A name is a glob where it holds a mark. -/
theorem isGlobComponent_normal (name : String) :
    isGlobComponent (.normal name) = true ↔ HasMark name := by
  rw [isGlobComponent, List.any_eq_true, HasMark]
  constructor
  · rintro ⟨mark, inName, isMark⟩
    exact ⟨mark, List.contains_iff_mem.1 isMark, inName⟩
  · rintro ⟨mark, isMark, inName⟩
    exact ⟨mark, inName, List.contains_iff_mem.2 isMark⟩

/-- Only a component whose text holds a mark is a glob. -/
theorem exists_mark_of_isGlob {component : Component} (isGlob : isGlobComponent component = true) :
    HasMark component.text := by
  cases component with
  | root => cases isGlob
  | current => cases isGlob
  | parent => cases isGlob
  | normal name => exact (isGlobComponent_normal name).1 isGlob

/-- Components are literal when no name among them has a mark. -/
theorem all_literal_iff (parts : List Component) :
    (∀ part ∈ parts, (!isGlobComponent part) = true) ↔
      ∀ name, Component.normal name ∈ parts → ¬HasMark name := by
  constructor
  · intro literal name inParts hasMark
    have isLiteral := literal _ inParts
    rw [(isGlobComponent_normal name).2 hasMark] at isLiteral
    cases isLiteral
  · intro noMark part inParts
    cases part with
    | root => rfl
    | current => rfl
    | parent => rfl
    | normal name =>
        rw [Bool.not_eq_true', Bool.eq_false_iff]
        exact mt (isGlobComponent_normal name).1 (noMark name inParts)

section written

variable {parts : List Component} (areMoves : ∀ part ∈ parts, IsMove part)

include areMoves

/-- The pieces of a path put together from components are their texts. -/
theorem pieces_pathOf (nonempty : parts ≠ []) :
    pieces (pathOf parts) = parts.map Component.text := by
  rw [pathOf_eq fun part inParts => isPart_of_move (areMoves part inParts)]
  apply pieces_intercalate
  · exact mt List.map_eq_nil_iff.1 nonempty
  · intro text inTexts
    obtain ⟨part, inParts, rfl⟩ := List.mem_map.1 inTexts
    exact (areMoves part inParts).noSlash

/-- The segments of a path put together from components are their texts. -/
theorem segments_pathOf : segments (pathOf parts) = parts.map Component.text := by
  cases parts with
  | nil => rfl
  | cons part parts =>
      have isPieces := pieces_pathOf areMoves (List.cons_ne_nil _ _)
      rw [segments, if_neg, isPieces]
      intro isEmpty
      rw [isEmpty, List.map_cons] at isPieces
      exact (areMoves part List.mem_cons_self).text_ne_empty (List.cons.inj isPieces).1.symm

/-- The moves of a path put together from components are those components. -/
theorem moves_pathOf : moves (pathOf parts) = parts := by
  by_cases isEmpty : parts = []
  · subst isEmpty
    exact moves_empty
  · rw [moves, pieces_pathOf areMoves isEmpty, filterMap_text areMoves]

/-- Moves that are written as a path are its components. -/
theorem components_pathOf : components (pathOf parts) = parts := by
  cases parts with
  | nil => rfl
  | cons part parts =>
      have isPieces := pieces_pathOf areMoves (List.cons_ne_nil _ _)
      have isMove := areMoves part List.mem_cons_self
      rw [List.map_cons] at isPieces
      rw [components_eq isPieces, beginning, if_neg fun none => isMove.text_ne_empty none.1,
        if_neg isMove.text_ne_current, List.nil_append, ← List.map_cons, filterMap_text areMoves]

/-- The root in front stays a component. -/
theorem components_pathOf_root : components (pathOf (.root :: parts)) = .root :: parts := by
  have isText : pathOf (.root :: parts) = "" ++ "/" ++ pathOf parts := by
    rw [pathOf_eq fun part inParts => isPart_of_move (areMoves part inParts)]
    rfl
  have isPieces : pieces (pathOf (.root :: parts)) = "" :: pieces (pathOf parts) := by
    rw [isText, pieces_append]
    rfl
  have noName : component? "" = none := rfl
  rw [components_eq isPieces, beginning, if_pos ⟨rfl, pieces_ne_nil _⟩,
    List.filterMap_cons_none noName]
  change .root :: moves (pathOf parts) = _
  rw [moves_pathOf areMoves]

end written

/-- The part behind the cut is made of moves. -/
theorem isMove_of_globPart {pointer : String} : ∀ move ∈ globPart pointer, IsMove move := by
  intro move member
  rw [globPart, dropWhile_components] at member
  exact isMove_of_mem ((List.dropWhile_sublist _).mem member)

/-- The part before the cut holds no glob. -/
theorem isLiteral_of_literalPart {pointer : String} :
    ∀ part ∈ literalPart pointer, (!isGlobComponent part) = true := by
  intro part member
  exact @List.mem_takeWhile_imp _ (fun component => !isGlobComponent component) _ _ member

/-- The directory has the components in front of the first glob. The root can only be the first of
them, and the others are moves. -/
theorem components_base (pointer : String) :
    components (splitGlob pointer).1 = literalPart pointer := by
  have areMoves : ∀ move ∈ (moves pointer).takeWhile fun component => !isGlobComponent component,
      IsMove move := fun move member => isMove_of_mem ((List.takeWhile_sublist _).mem member)
  rw [splitGlob_eq, literalPart, filter_components]
  cases isAbsolute pointer with
  | true => exact components_pathOf_root areMoves
  | false => exact components_pathOf areMoves

/-- The pattern is read back as the part it was made of. -/
theorem components_pattern (pointer : String) :
    components (splitGlob pointer).2 = globPart pointer :=
  components_pathOf isMove_of_globPart

/-- The segments of the pattern are the texts of its part. -/
theorem segments_pattern (pointer : String) :
    segments (splitGlob pointer).2 = (globPart pointer).map Component.text :=
  segments_pathOf isMove_of_globPart

/-- Nothing of a pointer is lost but `.`. -/
theorem components_splitGlob (pointer : String) :
    components (splitGlob pointer).1 ++ components (splitGlob pointer).2 =
      (components pointer).filter (· ≠ .current) := by
  rw [components_base, components_pattern, literalPart_append]

/-- The pattern is empty or begins with a segment that holds a mark. -/
theorem pattern_begins (pointer : String) :
    (splitGlob pointer).2 = "" ∨
      ∃ first rest, segments (splitGlob pointer).2 = first :: rest ∧ HasMark first := by
  rw [segments_pattern]
  cases isPart : globPart pointer with
  | nil =>
      left
      rw [splitGlob_eq, isPart]
      rfl
  | cons first rest =>
      right
      have nonempty : globPart pointer ≠ [] := isPart ▸ List.cons_ne_nil _ _
      have isGlob : (!isGlobComponent ((globPart pointer).head nonempty)) = false :=
        List.head_dropWhile_not _ nonempty
      simp only [isPart, List.head_cons, Bool.not_eq_false'] at isGlob
      exact ⟨first.text, rest.map Component.text, List.map_cons, exists_mark_of_isGlob isGlob⟩

/-- The directory is the longest literal beginning. -/
theorem prefix_base {pointer : String} {literal : List Component}
    (begins : literal <+: (components pointer).filter (· ≠ .current))
    (noMark : ∀ name, .normal name ∈ literal → ¬HasMark name) :
    literal <+: components (splitGlob pointer).1 := by
  obtain ⟨rest, isWhole⟩ := begins
  rw [components_base, literalPart, ← isWhole,
    List.takeWhile_append_of_pos ((all_literal_iff literal).2 noMark)]
  exact List.prefix_append _ _

/-- Two pointers are cut alike just where one respells the other. -/
theorem splitGlob_eq_iff {first second : String} :
    splitGlob first = splitGlob second ↔ Respelled first second := by
  rw [respelled_iff]
  constructor
  · intro same
    rw [← components_splitGlob first, ← components_splitGlob second, same]
  · intro same
    unfold splitGlob
    rw [same]

/-- A pointer is cut in front of its first name with a mark. Nothing is lost but `.`, the first part
is the longest beginning without marks, and pointers are cut in the same way exactly when one is
another spelling of the other. -/
theorem splitGlob_at_first_mark (pointer : String) :
    ∃ base pattern, splitGlob pointer = (base, pattern) ∧
      components base ++ components pattern = (components pointer).filter (· ≠ .current) ∧
      segments pattern = (components pattern).map Component.text ∧
      (∀ name, .normal name ∈ components base → ¬HasMark name) ∧
      (pattern = "" ∨ ∃ first rest, segments pattern = first :: rest ∧ HasMark first) ∧
      (∀ literal, literal <+: (components pointer).filter (· ≠ .current) →
        (∀ name, .normal name ∈ literal → ¬HasMark name) → literal <+: components base) ∧
      ∀ other, splitGlob other = (base, pattern) ↔ Respelled other pointer := by
  have isCut : segments (splitGlob pointer).2 =
      (components (splitGlob pointer).2).map Component.text := by
    rw [segments_pattern, components_pattern]
  have noMark : ∀ name, .normal name ∈ components (splitGlob pointer).1 → ¬HasMark name := by
    rw [components_base]
    exact (all_literal_iff _).1 isLiteral_of_literalPart
  exact ⟨_, _, rfl, components_splitGlob pointer, isCut, noMark, pattern_begins pointer,
    fun _ => prefix_base, fun _ => splitGlob_eq_iff⟩

/-- A `.`, a repeated slash and a slash at the end make no difference, and a parent behind a glob
belongs to the pattern. -/
theorem splitGlob_at_first_mark_respelled :
    splitGlob "src/a*/../b" = ("src", "a*/../b") ∧
      splitGlob "src/./a*//../b/" = ("src", "a*/../b") := by
  have isSplit : splitGlob "src/a*/../b" = ("src", "a*/../b") := by decide +kernel
  have nonempty : "src/./a*//../b" ≠ "" := by decide
  have ending : Respells "src/./a*//../b/" "src/./a*//../b" := .last nonempty
  have slash : Respells "src/./a*//../b" "src/./a*/../b" := .slash "src/./a*" "../b"
  have current : Respells "src/./a*/../b" "src/a*/../b" := .current "src" "a*/../b"
  have respelled : Respelled "src/./a*//../b/" "src/a*/../b" :=
    .trans _ _ _ (.rel _ _ ending) (.trans _ _ _ (.rel _ _ slash) (.rel _ _ current))
  obtain ⟨base, pattern, isCut, -, -, -, -, -, sameCut⟩ := splitGlob_at_first_mark "src/a*/../b"
  obtain ⟨rfl, rfl⟩ := Prod.mk.inj (isSplit.symm.trans isCut)
  exact ⟨isSplit, (sameCut _).2 respelled⟩

end OperationCheck.Documents
