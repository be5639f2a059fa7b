import OperationCheck.Language.Lines
import OperationCheck.Proofs.Template.Places
import OperationCheck.Text.Bytes

/-!
Locations in embedded operations. The lines of a position end at line feeds only, but a location
is found with more line breaks. The main statement says that a character which stays in a block has
the same location in the positioned text as in the source, as long as every character in front of
the block and every blanked one counts like a blank or a line feed. A lone carriage return does
not.
-/

namespace OperationCheck.Template

open OperationCheck.Text
open OperationCheck.Language
open OperationCheck.Validation

section locations

variable {width : Char → Nat}

/-- The location behind a character, in front of the rest of its text. -/
def pass (width : Char → Nat) (location : Location) (c : Char) (rest : List Char) : Location :=
  if endsLine c && !rest.isEmpty && !(c == '\r' && rest.head? == some '\n') then
    ⟨location.line + 1, 1⟩
  else ⟨location.line, location.column + width c⟩

/-- The location behind a passed text, in front of the rest. -/
def passAll (width : Char → Nat) (location : Location) : List Char → List Char → Location
  | [], _ => location
  | c :: passed, rest => passAll width (pass width location c (passed ++ rest)) passed rest

/-- Passing two texts is passing the first, with the second in sight, and then the second. -/
theorem passAll_append (location : Location) (first second rest : List Char) :
    passAll width location (first ++ second) rest =
      passAll width (passAll width location first (second ++ rest)) second rest := by
  induction first generalizing location with
  | nil => rfl
  | cons c first ih => rw [List.cons_append, passAll, passAll, ih, List.append_assoc]

/-- The place behind a passed text has the location there. -/
theorem locateFrom_passed (start : Nat) (location : Location) (passed rest : List Char) :
    locateFrom width (start + (bytes passed).length) start location (passed ++ rest) =
      passAll width location passed rest := by
  induction passed generalizing start location with
  | nil => cases rest <;> simp [locateFrom, passAll]
  | cons c passed ih =>
      have size : (bytes (c :: passed)).length = c.utf8Size + (bytes passed).length := by
        simp [bytes, String.length_utf8EncodeChar]
      have further : ¬start + (c.utf8Size + (bytes passed).length) ≤ start := by
        have := c.utf8Size_pos
        omega
      rw [size, List.cons_append, locateFrom, if_neg further, ← Nat.add_assoc, ih]
      rfl

/-- The location behind some characters is where passing them ends. -/
theorem locate_passed (passed rest : List Char) :
    locate width (String.ofList (passed ++ rest)) (bytes passed).length =
      passAll width ⟨1, 1⟩ passed rest := by
  rw [locate, String.toList_ofList, ← locateFrom_passed 0, Nat.zero_add]

/-- A character counts like a blank or a line feed. A line break does so when it is the first part
of a carriage return with a line feed. -/
def CountsPlainly (width : Char → Nat) (c : Char) (next : Option Char) : Prop :=
  c = '\n' ∨ width c = width ' ' ∧ (endsLine c = true → c = '\r' ∧ next = some '\n')

/-- The location that a position has when all characters before it count plainly. -/
def plainLocation (width : Char → Nat) (position : Position) : Location :=
  ⟨position.line + 1, position.column * width ' ' + 1⟩

/-- A character that ends no line moves the column by its width. -/
theorem pass_of_noBreak {c : Char} {next : Option Char} {rest : List Char}
    (noBreak : endsLine c = true → c = '\r' ∧ next = some '\n')
    (followed : ∀ follower, next = some follower → rest.head? = some follower)
    (location : Location) :
    pass width location c rest = ⟨location.line, location.column + width c⟩ := by
  unfold pass
  cases breaks : endsLine c with
  | false => rfl
  | true =>
      obtain ⟨rfl, isNext⟩ := noBreak breaks
      rw [followed _ isNext]
      simp

/-- A line feed that is not the last character begins a line. -/
theorem pass_of_feed {rest : List Char} (goesOn : rest ≠ []) (location : Location) :
    pass width location '\n' rest = ⟨location.line + 1, 1⟩ := by
  have feed : endsLine '\n' = true := by decide
  simp [pass, feed, goesOn]

/-- A character that counts plainly leads to the location of the next position. -/
theorem pass_plain {c : Char} {next : Option Char} {rest : List Char}
    (plain : CountsPlainly width c next) (goesOn : rest ≠ [])
    (followed : ∀ follower, next = some follower → rest.head? = some follower)
    (position : Position) :
    pass width (plainLocation width position) c rest =
      plainLocation width (position.next c) := by
  rcases plain with rfl | ⟨wide, noBreak⟩
  · rw [pass_of_feed goesOn]
    simp [plainLocation, Position.next]
  · rw [pass_of_noBreak noBreak followed]
    unfold Position.next
    by_cases feed : c = '\n'
    · subst feed
      cases (noBreak (by decide)).1
    · rw [if_neg feed, plainLocation, plainLocation, wide]
      simp only [Nat.succ_mul]
      rw [Nat.add_right_comm]

/-- A text that counts plainly leads to the location of the position behind it. -/
theorem passAll_plain {passed rest : List Char} (goesOn : rest ≠ [])
    (plain : ∀ index c, passed[index]? = some c → CountsPlainly width c passed[index + 1]?)
    (position : Position) :
    passAll width (plainLocation width position) passed rest =
      plainLocation width (position.after passed) := by
  induction passed generalizing position with
  | nil => rfl
  | cons c passed ih =>
      have first : CountsPlainly width c passed[0]? := plain 0 c rfl
      have later : passed ++ rest ≠ [] := fun empty => goesOn (List.append_eq_nil_iff.1 empty).2
      have followed : ∀ follower, passed[0]? = some follower →
          (passed ++ rest).head? = some follower := by
        intro follower isNext
        rw [← List.head?_eq_getElem?] at isNext
        rw [List.head?_append, isNext, Option.some_or]
      rw [passAll, pass_plain first later followed, Position.after_cons]
      exact ih (fun index d found => plain (index + 1) d found) _

/-- Only a line feed behind a character matters for its location. -/
theorem pass_congr {first second : List Char} (firstGoesOn : first ≠ [])
    (secondGoesOn : second ≠ []) (feeds : first.head? = some '\n' ↔ second.head? = some '\n')
    (location : Location) (c : Char) :
    pass width location c first = pass width location c second := by
  have same : (first.head? == some '\n') = (second.head? == some '\n') := by
    rw [Bool.eq_iff_iff, beq_iff_eq, beq_iff_eq, feeds]
  simp [pass, firstGoesOn, secondGoesOn, same]

/-- A character that stays or counts plainly leads to the same location in both texts. -/
theorem pass_keepsPlace {original kept next : Char} {rest text : List Char}
    (first : KeepsPlace original kept) (others : List.Forall₂ KeepsPlace (next :: rest) text)
    (plain : kept ≠ original → CountsPlainly width original (some next))
    (behind : List Char) (location : Location) :
    pass width location kept text = pass width location original (next :: rest ++ behind) := by
  cases others with
  | @cons _ keptNext _ text second _ =>
      by_cases stays : kept = original
      · subst stays
        refine pass_congr (List.cons_ne_nil _ _) (List.cons_ne_nil _ _) ?_ _ _
        simpa using second.1
      · have visible : original ≠ '\n' := fun feed => stays ((first.1.2 feed).trans feed.symm)
        have blank : kept = ' ' := (first.2 visible).resolve_left stays
        obtain ⟨wide, noBreak⟩ := (plain stays).resolve_left visible
        have noBlankBreak : endsLine ' ' = true → ' ' = '\r' ∧ none = some '\n' := by decide
        rw [blank, pass_of_noBreak noBlankBreak nofun, pass_of_noBreak noBreak, wide]
        exact fun follower isNext => isNext

/-- Kept characters have the same locations in a text and in its body, when every character that is
blanked counts plainly. -/
theorem passAll_keepsPlace {body text : List Char} (keeps : List.Forall₂ KeepsPlace body text)
    (plain : ∀ index c, body[index]? = some c → text[index]? ≠ some c →
      CountsPlainly width c body[index + 1]?)
    (behind : List Char) {index : Nat} (inside : index < body.length) (location : Location) :
    passAll width location (text.take index) (text.drop index) =
      passAll width location (body.take index) (body.drop index ++ behind) := by
  induction keeps generalizing index location with
  | nil => cases inside
  | @cons original kept body text first others ih =>
      cases index with
      | zero => rfl
      | succ index =>
          have shorter : index < body.length := Nat.lt_of_succ_lt_succ inside
          obtain ⟨next, rest, rfl⟩ := List.exists_cons_of_length_pos (Nat.zero_lt_of_lt shorter)
          have same := pass_keepsPlace first others
            (fun changed => plain 0 original rfl fun same => changed (Option.some.inj same))
            behind location
          rw [List.take_succ_cons, List.take_succ_cons, passAll, passAll, List.drop_succ_cons,
            List.drop_succ_cons, List.take_append_drop, ← List.append_assoc,
            List.take_append_drop, same]
          exact ih (fun index c found changed => plain (index + 1) c found changed) shorter _

/-- All characters in front of a block and all blanked ones count plainly. -/
structure Block.LeavesPlainly (block : Block) (width : Char → Nat) (front body : List Char) :
    Prop where
  front : ∀ index c, front[index]? = some c → CountsPlainly width c front[index + 1]?
  blanked : ∀ index c, body[index]? = some c → block.text[index]? ≠ some c →
    CountsPlainly width c body[index + 1]?

/-- Each character that stays in a block has the location in the positioned text that it has in the
source. -/
def Block.KeepsLocations (block : Block) (width : Char → Nat) (source front body : List Char) :
    Prop :=
  ∃ blanks, block.positioned = blanks ++ block.text ∧
    ∀ index c, body[index]? = some c → block.text[index]? = some c →
      locate width (String.ofList block.positioned)
          (bytes (blanks ++ block.text.take index)).length =
        locate width (String.ofList source) (bytes (front ++ body.take index)).length

theorem Block.KeepsPlaces.forall₂ {block : Block} {front body : List Char}
    (keeps : block.KeepsPlaces front body) : List.Forall₂ KeepsPlace body block.text :=
  List.forall₂_iff_get.2 ⟨keeps.length.symm, fun index inBody inText =>
    keeps.characters index inText inBody⟩

theorem Block.KeepsPlaces.placed {block : Block} {front body : List Char}
    (keeps : block.KeepsPlaces front body) : block.position = placeOf front := by
  obtain ⟨blanks, isPositioned, places⟩ := keeps.places
  have isBlanks := List.append_cancel_right isPositioned
  have first := places 0
  rw [List.take_zero, List.take_zero, List.append_nil, List.append_nil, ← isBlanks,
    placeOf_blanks] at first
  exact first

/-- Blank lines and blank columns count plainly. -/
theorem countsPlainly_blanks (width : Char → Nat) (position : Position) (index : Nat) (c : Char)
    (found : (List.replicate position.line '\n' ++ List.replicate position.column ' ')[index]? =
      some c) (next : Option Char) : CountsPlainly width c next := by
  have member := List.mem_of_getElem? found
  rcases List.mem_append.1 member with isLine | isColumn
  · exact .inl (List.eq_of_mem_replicate isLine)
  · rw [List.eq_of_mem_replicate isColumn]
    exact .inr ⟨rfl, fun breaks => absurd breaks (by decide)⟩

/-- A beginning that counts plainly leads to the location of its place. -/
theorem locate_plain {front passed rest : List Char} (goesOn : passed ++ rest ≠ [])
    (plain : ∀ index c, front[index]? = some c → CountsPlainly width c front[index + 1]?) :
    locate width (String.ofList (front ++ passed ++ rest)) (bytes (front ++ passed)).length =
      passAll width (plainLocation width (placeOf front)) passed rest := by
  have start : (⟨1, 1⟩ : Location) = plainLocation width .start := by
    rw [plainLocation, Position.start, Nat.zero_mul]
  have place : Position.start.after front = placeOf front := (placeOf_append [] front).symm
  rw [locate_passed, passAll_append, start, passAll_plain goesOn plain, place]

/-- The places that a block keeps are locations when all it leaves out counts plainly. -/
theorem Block.KeepsPlaces.keepsLocations {block : Block} {source front body behind : List Char}
    (encloses : Encloses source front body behind) (keeps : block.KeepsPlaces front body)
    (plain : block.LeavesPlainly width front body) :
    block.KeepsLocations width source front body := by
  refine ⟨_, rfl, fun index c inBody inText => ?_⟩
  have inside : index < body.length := (List.getElem?_eq_some_iff.1 inBody).1
  have textGoesOn : block.text.take index ++ block.text.drop index ≠ [] := by
    rw [List.take_append_drop, ← List.length_pos_iff, keeps.length]
    exact Nat.zero_lt_of_lt inside
  have bodyGoesOn : body.take index ++ (body.drop index ++ '\x60' :: behind) ≠ [] := by simp
  have ofText := locate_plain textGoesOn fun index c found =>
    countsPlainly_blanks width block.position index c found _
  have ofSource := locate_plain bodyGoesOn plain.front
  rw [List.append_assoc, List.take_append_drop, placeOf_blanks, keeps.placed,
    passAll_keepsPlace keeps.forall₂ plain.blanked ('\x60' :: behind) inside] at ofText
  rw [List.append_assoc, ← List.append_assoc (body.take index), List.take_append_drop,
    ← List.append_assoc, ← encloses.whole] at ofSource
  rw [ofSource, ← ofText, Block.positioned, keeps.placed]

/-- A source whose lines end at line feeds only leaves plain characters out. -/
theorem leavesPlainly_of_source (block : Block) (width : Char → Nat)
    {source front body behind : List Char} (encloses : Encloses source front body behind)
    (plain : ∀ c ∈ source, c = '\n' ∨ width c = width ' ' ∧ endsLine c = false) :
    block.LeavesPlainly width front body := by
  have counts : ∀ c ∈ source, ∀ next, CountsPlainly width c next := by
    intro c member next
    rcases plain c member with feed | ⟨wide, noBreak⟩
    · exact .inl feed
    · exact .inr ⟨wide, fun breaks => absurd (noBreak.symm.trans breaks) (by decide)⟩
  have whole := encloses.whole
  constructor
  · intro index c found
    exact counts c (by simp [whole, List.mem_of_getElem? found]) _
  · intro index c found _
    exact counts c (by simp [whole, List.mem_of_getElem? found]) _

/-- Every block keeps the locations of its characters when all it leaves out counts plainly. -/
theorem blocks_keep_locations (width : Char → Nat) (source : List Char) (block : Block)
    (member : block ∈ blocks source) :
    ∃ front body behind, Encloses source front body behind ∧ block.KeepsPlaces front body ∧
      (block.LeavesPlainly width front body → block.KeepsLocations width source front body) := by
  obtain ⟨front, body, behind, encloses, keeps⟩ := blocks_keep_places source block member
  exact ⟨front, body, behind, encloses, keeps, keeps.keepsLocations encloses⟩

/-- A template with a wide character and an interpolation on its first line keeps the locations of a
parser that counts one column for each character. -/
theorem blocks_keep_locations_interpolated :
    (⟨⟨1, 4⟩, "ü    \n \x7b".toList⟩ : Block) ∈ blocks "é\ngql\x60ü$\x7bx\x7d\n \x7b\x60;".toList ∧
    ∃ front body behind,
      Encloses "é\ngql\x60ü$\x7bx\x7d\n \x7b\x60;".toList front body behind ∧
        Block.KeepsPlaces ⟨⟨1, 4⟩, "ü    \n \x7b".toList⟩ front body ∧
        Block.LeavesPlainly ⟨⟨1, 4⟩, "ü    \n \x7b".toList⟩ (fun _ => 1) front body ∧
        Block.KeepsLocations ⟨⟨1, 4⟩, "ü    \n \x7b".toList⟩ (fun _ => 1)
          "é\ngql\x60ü$\x7bx\x7d\n \x7b\x60;".toList front body := by
  have member : (⟨⟨1, 4⟩, "ü    \n \x7b".toList⟩ : Block) ∈
      blocks "é\ngql\x60ü$\x7bx\x7d\n \x7b\x60;".toList := by
    decide +kernel
  obtain ⟨front, body, behind, encloses, keeps, locations⟩ :=
    blocks_keep_locations (fun _ => 1) _ _ member
  have sourcePlain : ∀ c ∈ "é\ngql\x60ü$\x7bx\x7d\n \x7b\x60;".toList,
      c = '\n' ∨ 1 = 1 ∧ endsLine c = false := by
    have checked := List.all_eq_true.1 (by decide +kernel :
      "é\ngql\x60ü$\x7bx\x7d\n \x7b\x60;".toList.all (fun c => c == '\n' || !endsLine c) = true)
    simpa only [Bool.or_eq_true, beq_iff_eq, Bool.not_eq_true', true_and] using checked
  have plain := leavesPlainly_of_source ⟨⟨1, 4⟩, "ü    \n \x7b".toList⟩ (fun _ => 1) encloses
    sourcePlain
  exact ⟨member, front, body, behind, encloses, keeps, plain, locations plain⟩

/-- A carriage return in front of a block ends a line of the source, but it only counts as a blank
column of the positioned text. -/
theorem carriage_return_shifts_location :
    (⟨⟨0, 5⟩, "\x7b b \x7d".toList⟩ : Block) ∈ blocks "\rgql\x60\x7b b \x7d\x60".toList ∧
    locateByCharacters (String.ofList (Block.positioned ⟨⟨0, 5⟩, "\x7b b \x7d".toList⟩)) 7 =
      ⟨1, 8⟩ ∧
    locateByCharacters "\rgql\x60\x7b b \x7d\x60" 7 = ⟨2, 7⟩ := by
  refine ⟨?_, ?_, ?_⟩ <;> decide +kernel

end locations

end OperationCheck.Template
