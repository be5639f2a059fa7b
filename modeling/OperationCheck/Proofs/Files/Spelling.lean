import Mathlib.Logic.Relation
import OperationCheck.Proofs.Files.Path

/-!
Spellings of a path. A `.`, a repeated slash and a slash at the end can be left out of a path. The
main statement says that two paths are turned into each other in this way exactly when they have the
same components, apart from `.`.
-/

namespace OperationCheck.Files

/-- These parts of a path can be left out. The slash at the beginning of a path is the root, so it
is not left out as a slash at the end, and a `.` is not left out in front of it. -/
inductive Respells : String → String → Prop where
  | slash (front back : String) : Respells (front ++ "//" ++ back) (front ++ "/" ++ back)
  | current (front back : String) : Respells (front ++ "/./" ++ back) (front ++ "/" ++ back)
  | first {path : String} (isRelative : isAbsolute path = false) : Respells ("./" ++ path) path
  | last {path : String} (nonempty : path ≠ "") : Respells (path ++ "/") path

/-- Two spellings of a path differ only in such parts. -/
def Respelled : String → String → Prop := Relation.EqvGen Respells

/-- The components behind the root go to a parent or to a named entry. -/
def moves (path : String) : List Component := (pieces path).filterMap component?

/-- A move is read from its text, which is a single piece. -/
structure IsMove (component : Component) : Prop where
  read : component? component.text = some component
  noSlash : '/' ∉ component.text.toList

/-- A component is written as its piece. -/
theorem text_of_component {piece : String} {component : Component}
    (isComponent : component? piece = some component) : component.text = piece := by
  unfold component? at isComponent
  split at isComponent
  · cases isComponent
  · split at isComponent
    · next isParent =>
        obtain rfl := Option.some.inj isComponent
        exact isParent.symm
    · obtain rfl := Option.some.inj isComponent
      rfl

/-- Only empty pieces and dots are no components. -/
theorem nothing_of_noComponent {piece : String} (noComponent : component? piece = none) :
    piece = "" ∨ piece = "." := by
  unfold component? at noComponent
  split at noComponent
  · assumption
  · split at noComponent <;> cases noComponent

/-- All moves of a path are moves. -/
theorem isMove_of_mem {path : String} {move : Component} (member : move ∈ moves path) :
    IsMove move := by
  obtain ⟨piece, inPieces, isComponent⟩ := List.mem_filterMap.1 member
  have isText := text_of_component isComponent
  constructor
  · rw [isText, isComponent]
  · rw [isText]
    exact slash_notMem_piece inPieces

/-- A move is not written as a piece that is no component. -/
theorem IsMove.text_ne {move : Component} (isMove : IsMove move) {piece : String}
    (noComponent : component? piece = none) : move.text ≠ piece := by
  intro isPiece
  have read := isMove.read
  rw [isPiece, noComponent] at read
  cases read

theorem IsMove.text_ne_empty {move : Component} (isMove : IsMove move) : move.text ≠ "" :=
  isMove.text_ne rfl

theorem IsMove.text_ne_current {move : Component} (isMove : IsMove move) : move.text ≠ "." :=
  isMove.text_ne rfl

theorem IsMove.ne_root {move : Component} (isMove : IsMove move) : move ≠ .root := by
  intro isRoot
  apply isMove.noSlash
  rw [isRoot]
  decide

theorem IsMove.ne_current {move : Component} (isMove : IsMove move) : move ≠ .current := by
  intro isCurrent
  apply isMove.text_ne_current
  rw [isCurrent]
  rfl

/-- Moves are found again in their texts. -/
theorem filterMap_text {parts : List Component} (areMoves : ∀ part ∈ parts, IsMove part) :
    (parts.map Component.text).filterMap component? = parts := by
  induction parts with
  | nil => rfl
  | cons part parts ih =>
      obtain ⟨isMove, others⟩ := List.forall_mem_cons.1 areMoves
      rw [List.map_cons, List.filterMap_cons_some isMove.read, ih others]

/-- A path that goes on below another one goes on with its moves. -/
theorem moves_below (front back : String) :
    moves (front ++ "/" ++ back) = moves front ++ moves back := by
  rw [moves, pieces_append, List.filterMap_append]
  rfl

/-- Nothing behind a slash changes whether a path begins at the root. -/
theorem isAbsolute_below (front back : String) :
    isAbsolute (front ++ "/" ++ back) = isAbsolute (front ++ "/") := by
  apply isAbsolute_append
  intro isEmpty
  have noSlash := congrArg String.toList isEmpty
  simp at noSlash

/-- A path is absolute where its first piece is empty and not its only one. -/
theorem isAbsolute_iff_pieces {path first : String} {rest : List String}
    (isPieces : pieces path = first :: rest) :
    isAbsolute path = true ↔ first = "" ∧ rest ≠ [] := by
  rw [isAbsolute_iff]
  constructor
  · rintro ⟨behind, isText⟩
    rw [pieces, isText, splitOn_slash_cons, if_pos rfl, List.map_cons] at isPieces
    obtain ⟨rfl, rfl⟩ := List.cons.inj isPieces
    exact ⟨rfl, fun none => List.splitOn_ne_nil _ _ (List.map_eq_nil_iff.1 none)⟩
  · rintro ⟨rfl, nonempty⟩
    cases rest with
    | nil => exact absurd rfl nonempty
    | cons second rest =>
        rw [← intercalate_pieces path, isPieces, String.intercalate_cons_cons, toList_below]
        exact ⟨_, rfl⟩

/-- A path begins at the root or not, and then it moves. -/
theorem filter_components (path : String) :
    (components path).filter (· ≠ .current) =
      (if isAbsolute path then [.root] else []) ++ moves path := by
  cases isPieces : pieces path with
  | nil => exact absurd isPieces (pieces_ne_nil path)
  | cons first rest =>
      have areMoves : (moves path).filter (· ≠ .current) = moves path :=
        List.filter_eq_self.2 fun move member => decide_eq_true (isMove_of_mem member).ne_current
      rw [moves, isPieces] at areMoves
      rw [components_eq isPieces, List.filter_append, areMoves, moves, isPieces]
      have begins := isAbsolute_iff_pieces isPieces
      unfold beginning
      by_cases isRoot : first = "" ∧ rest ≠ []
      · rw [if_pos isRoot, if_pos (begins.2 isRoot)]
        rfl
      · rw [if_neg isRoot, if_neg (mt begins.1 isRoot)]
        split <;> rfl

/-- Paths have the same components when they begin alike and make the same moves. -/
theorem filter_components_inj {first second : String} :
    (components first).filter (· ≠ .current) = (components second).filter (· ≠ .current) ↔
      isAbsolute first = isAbsolute second ∧ moves first = moves second := by
  have noRoot {path : String} {behind : List Component} : .root :: behind ≠ moves path := by
    intro isMoves
    have member : .root ∈ moves path := isMoves ▸ List.mem_cons_self
    exact (isMove_of_mem member).ne_root rfl
  rw [filter_components, filter_components]
  constructor
  · intro same
    cases isFirst : isAbsolute first <;> cases isSecond : isAbsolute second <;>
      rw [isFirst, isSecond] at same
    · exact ⟨rfl, same⟩
    · exact absurd same.symm noRoot
    · exact absurd same noRoot
    · exact ⟨rfl, (List.cons.inj same).2⟩
  · rintro ⟨sameRoot, sameMoves⟩
    rw [sameRoot, sameMoves]

theorem slash_append (front back : String) :
    front ++ "//" ++ back = front ++ "/" ++ ("" ++ "/" ++ back) := by
  have twoParts : "//" = "/" ++ "/" := rfl
  rw [twoParts, String.empty_append]
  simp only [String.append_assoc]

theorem current_append (front back : String) :
    front ++ "/./" ++ back = front ++ "/" ++ ("." ++ "/" ++ back) := by
  have threeParts : "/./" = "/" ++ "." ++ "/" := rfl
  rw [threeParts]
  simp only [String.append_assoc]

theorem moves_empty : moves "" = [] := rfl

theorem moves_current : moves "." = [] := by decide +kernel

/-- What is left out neither moves nor begins a path. -/
theorem Respells.moves_eq {first second : String} (respells : Respells first second) :
    isAbsolute first = isAbsolute second ∧ moves first = moves second := by
  cases respells with
  | slash front back =>
      rw [slash_append]
      constructor
      · rw [isAbsolute_below, isAbsolute_below]
      · rw [moves_below, moves_below, moves_below, moves_empty, List.nil_append]
  | current front back =>
      rw [current_append]
      constructor
      · rw [isAbsolute_below, isAbsolute_below]
      · rw [moves_below, moves_below, moves_below, moves_current, List.nil_append]
  | first isRelative =>
      have twoParts : "./" = "." ++ "/" := rfl
      have notRoot : isAbsolute ("." ++ "/") = false := by decide +kernel
      rw [twoParts]
      constructor
      · rw [isAbsolute_below, notRoot, isRelative]
      · rw [moves_below, moves_current, List.nil_append]
  | @last path nonempty =>
      constructor
      · exact isAbsolute_append nonempty "/"
      · have behind := moves_below second ""
        rw [String.append_empty, moves_empty, List.append_nil] at behind
        exact behind

/-- Each name is followed by a slash. -/
def closed : List String → String
  | [] => ""
  | name :: names => name ++ "/" ++ closed names

/-- Names with a slash behind them all are joined by slashes. -/
theorem intercalate_closed {names : List String} (nonempty : names ≠ []) :
    "/".intercalate names ++ "/" = closed names := by
  induction names with
  | nil => exact absurd rfl nonempty
  | cons name names ih =>
      cases names with
      | nil => rw [String.intercalate_singleton, closed, closed, String.append_empty]
      | cons second names =>
          rw [String.intercalate_cons_cons, String.append_assoc, ih (List.cons_ne_nil _ _)]
          rfl

/-- The induction goes through the names behind a slash. A name that is kept belongs to the front of
the names that follow. -/
theorem respelled_closed (front : String) (names : List String) :
    Respelled (front ++ "/" ++ closed names)
      (front ++ "/" ++ closed ((names.filterMap component?).map Component.text)) := by
  induction names generalizing front with
  | nil => exact .refl _
  | cons name names ih =>
      cases isName : component? name with
      | none =>
          rw [List.filterMap_cons_none isName]
          apply Relation.EqvGen.trans _ _ _ _ (ih front)
          apply Relation.EqvGen.rel
          rcases nothing_of_noComponent isName with rfl | rfl
          · rw [closed, ← slash_append]
            exact .slash front (closed names)
          · rw [closed, ← current_append]
            exact .current front (closed names)
      | some component =>
          have behind := ih (front ++ "/" ++ name)
          rw [List.filterMap_cons_some isName, List.map_cons, text_of_component isName, closed,
            closed]
          simp only [String.append_assoc] at behind ⊢
          exact behind

/-- In the plain spelling of a path each move is followed by a slash. -/
def plainSpelling (path : String) : String :=
  (if isAbsolute path then "/" else "") ++ closed ((moves path).map Component.text)

/-- Moves with slashes behind them are a relative path. -/
theorem isAbsolute_closed {parts : List Component} (areMoves : ∀ part ∈ parts, IsMove part) :
    isAbsolute (closed (parts.map Component.text)) = false := by
  cases parts with
  | nil => decide +kernel
  | cons part parts =>
      have isMove := areMoves part List.mem_cons_self
      rw [List.map_cons, closed, String.append_assoc, isAbsolute_append isMove.text_ne_empty]
      apply Bool.eq_false_iff.2
      intro isRoot
      obtain ⟨rest, isText⟩ := (isAbsolute_iff _).1 isRoot
      apply isMove.noSlash
      rw [isText]
      exact List.mem_cons_self

/-- All that can be left out of a path is left out in its plain spelling. The first piece is looked
at by itself, since only there does a slash mean the root. -/
theorem respelled_plainSpelling (path : String) : Respelled path (plainSpelling path) := by
  by_cases isEmpty : path = ""
  · subst isEmpty
    exact .refl _
  · have ending : Respelled path (path ++ "/") := .symm _ _ (.rel _ _ (.last isEmpty))
    cases isPieces : pieces path with
    | nil => exact absurd isPieces (pieces_ne_nil path)
    | cons first rest =>
        have isClosed : path ++ "/" = first ++ "/" ++ closed rest := by
          rw [← intercalate_pieces path, isPieces, intercalate_closed (List.cons_ne_nil _ _),
            closed]
        rw [isClosed] at ending
        apply Relation.EqvGen.trans _ _ _ (ending.trans _ _ _ (respelled_closed first rest))
        have areMoves := @isMove_of_mem path
        unfold plainSpelling
        rw [moves, isPieces] at areMoves ⊢
        cases isRoot : isAbsolute path with
        | true =>
            obtain ⟨rfl, -⟩ := (isAbsolute_iff_pieces isPieces).1 isRoot
            have noName : component? "" = none := rfl
            rw [if_pos rfl, List.filterMap_cons_none noName]
            exact .refl _
        | false =>
            have nonempty := first_piece_ne_empty isPieces isRoot isEmpty
            rw [if_neg Bool.false_ne_true, String.empty_append]
            cases isFirst : component? first with
            | none =>
                obtain rfl := (nothing_of_noComponent isFirst).resolve_left nonempty
                rw [List.filterMap_cons_none isFirst] at areMoves ⊢
                exact .rel _ _ (.first (isAbsolute_closed fun _ => areMoves))
            | some component =>
                rw [List.filterMap_cons_some isFirst, List.map_cons, text_of_component isFirst,
                  closed]
                exact .refl _

/-- Two paths differ only in parts that can be left out exactly when they have the same components,
apart from `.`. -/
theorem respelled_iff {first second : String} :
    Respelled first second ↔
      (components first).filter (· ≠ .current) = (components second).filter (· ≠ .current) := by
  constructor
  · intro respelled
    induction respelled with
    | rel _ _ respells => exact filter_components_inj.2 respells.moves_eq
    | refl => rfl
    | symm _ _ _ ih => exact ih.symm
    | trans _ _ _ _ _ before behind => exact before.trans behind
  · intro same
    obtain ⟨sameRoot, sameMoves⟩ := filter_components_inj.1 same
    have samePlain : plainSpelling first = plainSpelling second := by
      rw [plainSpelling, plainSpelling, sameRoot, sameMoves]
    have toPlain := respelled_plainSpelling first
    rw [samePlain] at toPlain
    exact .trans _ _ _ toPlain (.symm _ _ (respelled_plainSpelling second))

end OperationCheck.Files
