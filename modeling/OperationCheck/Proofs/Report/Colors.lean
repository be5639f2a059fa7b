import OperationCheck.Proofs.Rules.Linking

/-!
Colors of a report. The main statement says that colors add nothing but their escapes to a text,
and that the style of links changes nothing in front of a link.
-/

namespace OperationCheck.Report

open OperationCheck.Rules OperationCheck.Validation

/-- The numbers of a color escape are separated by semicolons. -/
def isParameter (c : Char) : Bool := c.isDigit || c == ';'

/-- What is behind a color escape, if a text begins with one. -/
def behindEscape? : List Char → Option (List Char)
  | '\x1b' :: '[' :: rest =>
      match rest.dropWhile isParameter with
      | 'm' :: behind => some behind
      | _ => none
  | _ => none

/-- Deleting one color sequence leaves a shorter text, so that deleting all of them ends. -/
theorem behindEscape_shorter {text behind : List Char} (found : behindEscape? text = some behind) :
    behind.length < text.length := by
  unfold behindEscape? at found
  split at found
  · next rest =>
      have shorter := (List.dropWhile_suffix (l := rest) isParameter).length_le
      split at found
      · next isBehind =>
          rw [isBehind, Option.some.inj found] at shorter
          simp only [List.length_cons] at shorter ⊢
          omega
      · cases found
  · cases found

/-- This function deletes all color escapes from a text. -/
def withoutColors : List Char → List Char
  | [] => []
  | c :: rest =>
      match _found : behindEscape? (c :: rest) with
      | some behind => withoutColors behind
      | none => c :: withoutColors rest
termination_by text => text.length
decreasing_by
  · exact behindEscape_shorter _found
  · simp

/-- Other escapes stay, and so does one that is cut off. -/
example : withoutColors "\x1b[1;31ma\x1b[0m\x1b]8;;b\x1b[4".toList = "a\x1b]8;;b\x1b[4".toList := by
  cbv

@[simp] theorem withoutColors_nil : withoutColors [] = [] := by rw [withoutColors]

/-- Where a color sequence begins, it is dropped and the deletion goes on behind it. -/
theorem withoutColors_of_some {text behind : List Char} (found : behindEscape? text = some behind) :
    withoutColors text = withoutColors behind := by
  cases text with
  | nil => cases found
  | cons c rest =>
      rw [withoutColors]
      split
      · next isBehind => rw [Option.some.inj (found.symm.trans isBehind)]
      · next noEscape => cases found.symm.trans noEscape

theorem withoutColors_of_none {c : Char} {rest : List Char}
    (noEscape : behindEscape? (c :: rest) = none) :
    withoutColors (c :: rest) = c :: withoutColors rest := by
  rw [withoutColors]
  split
  · next isBehind => cases noEscape.symm.trans isBehind
  · rfl

/-- A color sequence begins with the escape character and with no other. -/
theorem behindEscape_visible {c : Char} (visible : c ≠ escape) (rest : List Char) :
    behindEscape? (c :: rest) = none := by
  unfold behindEscape?
  split
  · next same => exact absurd (List.cons.inj same).1 visible
  · rfl

/-- An escape of another kind is not one of a color. -/
theorem behindEscape_other {c : Char} (other : c ≠ '[') (rest : List Char) :
    behindEscape? (escape :: c :: rest) = none := by
  unfold behindEscape?
  split
  · next same => exact absurd (List.cons.inj (List.cons.inj same).2).1 other
  · rfl

/-- The numbers between the bracket and the closing letter are dropped with them, however many there
are. -/
theorem behindEscape_sequence {numbers : List Char}
    (areNumbers : ∀ c ∈ numbers, isParameter c = true) (rest : List Char) :
    behindEscape? (escape :: '[' :: (numbers ++ 'm' :: rest)) = some rest := by
  have passed : (numbers ++ 'm' :: rest).dropWhile isParameter = 'm' :: rest := by
    rw [List.dropWhile_append_of_pos areNumbers]
    rfl
  simp only [escape, behindEscape?, passed]

/-- A text leaves another one when its colors are deleted, whatever comes behind it. -/
def Leaves (text kept : List Char) : Prop :=
  ∀ rest, withoutColors (text ++ rest) = kept ++ withoutColors rest

/-- A text that leaves some text is that text without its colors. -/
theorem Leaves.withoutColors_eq {text kept : List Char} (leaves : Leaves text kept) :
    withoutColors text = kept := by
  have alone := leaves []
  rwa [List.append_nil, withoutColors_nil, List.append_nil] at alone

theorem leaves_nil : Leaves [] [] := fun _ => rfl

/-- Texts leave together what they leave apart, since no sequence goes on behind a text. -/
theorem Leaves.append {first second firstKept secondKept : List Char}
    (leaves : Leaves first firstKept) (behind : Leaves second secondKept) :
    Leaves (first ++ second) (firstKept ++ secondKept) := by
  intro rest
  rw [List.append_assoc, leaves, behind, List.append_assoc]

/-- A text without escapes stays as it is. -/
theorem leaves_plain {text : List Char} (plain : escape ∉ text) : Leaves text text := by
  intro rest
  induction text with
  | nil => rfl
  | cons c text ih =>
      rw [List.mem_cons, not_or] at plain
      have visible := behindEscape_visible (Ne.symm plain.1) (text ++ rest)
      rw [List.cons_append, withoutColors_of_none visible, ih plain.2, List.cons_append]

/-- An escape of another kind stays as well. -/
theorem leaves_other {c : Char} {text : List Char} (other : c ≠ '[')
    (stays : Leaves (c :: text) (c :: text)) :
    Leaves (escape :: c :: text) (escape :: c :: text) := by
  intro rest
  have noColor := behindEscape_other other (text ++ rest)
  have behind := stays rest
  rw [List.cons_append] at behind
  rw [List.cons_append, List.cons_append, withoutColors_of_none noColor, behind]
  rfl

/-- The escape of a color leaves nothing. -/
theorem leaves_sequence {numbers : List Char} (areNumbers : numbers.all isParameter = true) :
    Leaves (escape :: '[' :: numbers ++ ['m']) [] := by
  intro rest
  apply withoutColors_of_some
  simpa using behindEscape_sequence (List.all_eq_true.1 areNumbers) rest

/-- The sequence that turns a color on leaves nothing. -/
theorem Color.leaves_opening (color : Color) : Leaves color.opening [] := by
  apply leaves_sequence
  cases color <;> decide

theorem leaves_closing : Leaves closing [] := @leaves_sequence ['0'] (by decide)

/-- A text without escapes needs no color to be opened again. -/
theorem Color.reopen_plain (color : Color) {text : List Char} (plain : escape ∉ text) :
    color.reopen text = text := by
  fun_induction Color.reopen color text with
  | case1 => simp [escape] at plain
  | case2 c rest _ ih =>
      rw [List.mem_cons, not_or] at plain
      rw [ih plain.2]
  | case3 => rfl

/-- Painting adds only what deletion takes away, around a text without escapes. -/
theorem Color.leaves_paint (color : Color) {text : List Char} (plain : escape ∉ text) :
    Leaves (color.paint text) text := by
  rw [Color.paint, color.reopen_plain plain]
  simpa using (color.leaves_opening.append (leaves_plain plain)).append leaves_closing

/-- The escapes of a hyperlink are not those of a color. -/
theorem leaves_hyperlink {address label : List Char} (plainAddress : escape ∉ address)
    (plainLabel : escape ∉ label) :
    Leaves (hyperlink address label) (hyperlink address label) := by
  have opened : Leaves (escape :: "]8;;".toList) (escape :: "]8;;".toList) :=
    leaves_other (by decide) (leaves_plain (by decide))
  have ended : Leaves [escape, '\\'] [escape, '\\'] :=
    leaves_other (by decide) (leaves_plain (by decide))
  have opens {target : List Char} (plain : escape ∉ target) :
      Leaves (escape :: "]8;;".toList ++ target ++ [escape, '\\'])
        (escape :: "]8;;".toList ++ target ++ [escape, '\\']) :=
    (opened.append (leaves_plain plain)).append ended
  exact ((opens plainAddress).append (leaves_plain plainLabel)).append (opens List.not_mem_nil)

/-- A number is written in digits. -/
theorem escape_notMem_toString (number : Nat) : escape ∉ (toString number).toList := by
  intro member
  rw [Nat.toString_eq_repr, Nat.toList_repr] at member
  have digit := Nat.isDigit_of_mem_toDigits (by decide) (by decide) member
  exact absurd digit (by decide)

/-- The place a diagnostic names holds an escape only if the document's own name does. -/
theorem escape_notMem_position {document : String} (plain : escape ∉ document.toList)
    (location : Location) : escape ∉ (position document location).toList := by
  simp only [position, String.toList_append, List.mem_append, not_or]
  refine ⟨⟨⟨⟨plain, ?_⟩, escape_notMem_toString _⟩, ?_⟩, escape_notMem_toString _⟩
  · decide
  · decide

/-- A rule is plain when there are no escapes in what is shown of it. -/
structure PlainRule (rule : Rule) : Prop where
  link : escape ∉ rule.link.toList
  name : ∀ name ∈ rule.name, escape ∉ name.toList

/-- The label of a rule whose parts hold no escape holds none. -/
theorem PlainRule.label {rule : Rule} (plain : PlainRule rule) : escape ∉ rule.label.toList := by
  rw [Rule.label]
  cases named : rule.name with
  | none => exact plain.link
  | some name => exact plain.name name named

namespace Formatter

/-- The same formatter with or without colors. -/
def withColor (formatter : Formatter) (color : Bool) : Formatter := { formatter with color }

/-- The same formatter with another style of links. -/
def withLinks (formatter : Formatter) (links : LinkStyle) : Formatter := { formatter with links }

section

variable (formatter : Formatter)

/-- A text without escapes is left whole by a formatter, painted or not. -/
theorem leaves_paint (color : Color) {text : List Char} (plain : escape ∉ text) :
    Leaves (formatter.paint color text) text := by
  unfold paint
  split
  · exact color.leaves_paint plain
  · exact leaves_plain plain

/-- A link to a plain rule is left as it is, in either style of link. -/
theorem leaves_link {rule : Rule} (plain : PlainRule rule) :
    Leaves (formatter.link rule) (formatter.link rule) := by
  unfold link
  split
  · exact leaves_plain plain.link
  · exact leaves_hyperlink plain.link plain.label

/-- The line behind a diagnostic is left as it is, where the table's rules are plain. -/
theorem leaves_linkLine (plainRules : ∀ rule ∈ formatter.table.rules, PlainRule rule)
    (message : String) : Leaves (formatter.linkLine message) (formatter.linkLine message) := by
  unfold linkLine
  split
  · next rule resolved =>
      have plain := plainRules rule (List.mem_of_find?_eq_some resolved)
      exact (leaves_plain (by decide)).append (formatter.leaves_link plain)
  · exact leaves_nil

/-- Without its colors, a diagnostic is the message, the position and the link. -/
theorem leaves_diagnostic (plainRules : ∀ rule ∈ formatter.table.rules, PlainRule rule)
    {document message : String} (plainDocument : escape ∉ document.toList)
    (plainMessage : escape ∉ message.toList) (location : Location) :
    Leaves (formatter.diagnostic document location message)
      (message.toList ++ "\n  ".toList ++ (position document location).toList
        ++ formatter.linkLine message) := by
  have isMessage := formatter.leaves_paint .red plainMessage
  have isBetween : Leaves "\n  ".toList "\n  ".toList := leaves_plain (by decide)
  have isPosition := formatter.leaves_paint .yellow (escape_notMem_position plainDocument location)
  have isLink := formatter.leaves_linkLine plainRules message
  exact ((isMessage.append isBetween).append isPosition).append isLink

/-- The line on success loses its color and nothing else. -/
theorem leaves_success {pointer : String} (plain : escape ∉ pointer.toList) :
    Leaves (formatter.success pointer)
      ("✔ Awesome! All operations in " ++ pointer ++ " are valid!").toList := by
  apply formatter.leaves_paint
  simp only [String.toList_append, List.mem_append, not_or]
  exact ⟨⟨by decide, plain⟩, by decide⟩

/-- Colors are hidden when they are not asked for, or when the terminal does not have them. -/
def HidesColors : Prop := (formatter.color && formatter.terminalColors) = false

variable {formatter}

/-- A formatter that hides its colors does not paint. -/
theorem paint_of_hidden (hidden : formatter.HidesColors) (color : Color) (text : List Char) :
    formatter.paint color text = text := by
  rw [paint, hidden, if_neg Bool.false_ne_true]

/-- A diagnostic without colors is the message, the place and the line with the link. -/
theorem diagnostic_of_hidden (hidden : formatter.HidesColors) (document : String)
    (location : Location) (message : String) :
    formatter.diagnostic document location message =
      message.toList ++ "\n  ".toList ++ (position document location).toList
        ++ formatter.linkLine message := by
  rw [diagnostic, paint_of_hidden hidden, paint_of_hidden hidden]

theorem success_of_hidden (hidden : formatter.HidesColors) (pointer : String) :
    formatter.success pointer =
      ("✔ Awesome! All operations in " ++ pointer ++ " are valid!").toList := by
  rw [success, paint_of_hidden hidden]

/-- A formatter told to use no color hides them. -/
theorem hidesColors_withColor (formatter : Formatter) :
    (formatter.withColor false).HidesColors := rfl

/-- A terminal without colors hides them, whatever the formatter was told. -/
theorem HidesColors.of_terminal (noColors : formatter.terminalColors = false) :
    formatter.HidesColors := by
  rw [HidesColors, noColors, Bool.and_false]

/-- The style of links has no part in a diagnostic without a link. -/
theorem diagnostic_withLinks_of_none {message : String}
    (unresolved : formatter.table.resolve message = none) (links : LinkStyle) (document : String)
    (location : Location) :
    (formatter.withLinks links).diagnostic document location message =
      formatter.diagnostic document location message := by
  have noLink := linkLine_eq_nil_iff.2 unresolved
  have noOther : (formatter.withLinks links).linkLine message = [] :=
    linkLine_eq_nil_iff.2 unresolved
  rw [diagnostic_eq, diagnostic_eq, noLink, noOther]
  rfl

/-- In front of its link, a diagnostic is the same in every style. -/
theorem diagnostic_withLinks_of_some {message : String} {rule : Rule}
    (resolved : formatter.table.resolve message = some rule) (links : LinkStyle)
    (document : String) (location : Location) :
    (formatter.withLinks links).diagnostic document location message =
      formatter.unlinked document location message ++ "\n  More information at ".toList
        ++ (formatter.withLinks links).link rule := by
  have isLink : (formatter.withLinks links).linkLine message =
      "\n  More information at ".toList ++ (formatter.withLinks links).link rule := by
    have sameTable : (formatter.withLinks links).table.resolve message = some rule := resolved
    rw [linkLine, sameTable]
  rw [diagnostic_eq, isLink, List.append_assoc]
  rfl

end

end Formatter

/-- Deleting the escapes of colors from a text gives the text without colors, when there are no
other escapes in what it shows. On a terminal without colors, the texts are the same. The style of
links only changes what is behind the words in front of a link. -/
theorem colors_add_escapes (formatter : Formatter) (document : String) (location : Location)
    (message pointer : String) :
    ((∀ rule ∈ formatter.table.rules, PlainRule rule) → escape ∉ document.toList →
        escape ∉ message.toList →
        withoutColors ((formatter.withColor true).diagnostic document location message) =
          (formatter.withColor false).diagnostic document location message) ∧
      (escape ∉ pointer.toList →
        withoutColors ((formatter.withColor true).success pointer) =
          (formatter.withColor false).success pointer) ∧
      (formatter.terminalColors = false →
        (formatter.withColor true).diagnostic document location message =
            (formatter.withColor false).diagnostic document location message ∧
          (formatter.withColor true).success pointer =
            (formatter.withColor false).success pointer) ∧
      (formatter.table.resolve message = none ∧
          (∀ links, (formatter.withLinks links).diagnostic document location message =
            formatter.diagnostic document location message) ∨
        ∃ front rule, formatter.table.resolve message = some rule ∧
          (formatter.withLinks .plain).diagnostic document location message =
            front ++ "\n  More information at ".toList ++ rule.link.toList ∧
          (formatter.withLinks .hyperlink).diagnostic document location message =
            front ++ "\n  More information at ".toList
              ++ hyperlink rule.link.toList rule.label.toList) ∧
      ∀ links, (formatter.withLinks links).success pointer = formatter.success pointer := by
  have hidden := formatter.hidesColors_withColor
  refine ⟨?_, ?_, ?_, ?_, ?_⟩
  · intro plainRules plainDocument plainMessage
    have leaves := (formatter.withColor true).leaves_diagnostic plainRules plainDocument
      plainMessage location
    rw [leaves.withoutColors_eq, Formatter.diagnostic_of_hidden hidden]
    rfl
  · intro plain
    have leaves := (formatter.withColor true).leaves_success plain
    rw [leaves.withoutColors_eq, Formatter.success_of_hidden hidden]
  · intro noColors
    have alsoHidden : (formatter.withColor true).HidesColors :=
      Formatter.HidesColors.of_terminal noColors
    constructor
    · rw [Formatter.diagnostic_of_hidden hidden, Formatter.diagnostic_of_hidden alsoHidden]
      rfl
    · rw [Formatter.success_of_hidden hidden, Formatter.success_of_hidden alsoHidden]
  · cases resolved : formatter.table.resolve message with
    | none =>
        left
        refine ⟨rfl, ?_⟩
        intro links
        exact Formatter.diagnostic_withLinks_of_none resolved links document location
    | some rule =>
        right
        exact ⟨formatter.unlinked document location message, rule, rfl,
          Formatter.diagnostic_withLinks_of_some resolved .plain document location,
          Formatter.diagnostic_withLinks_of_some resolved .hyperlink document location⟩
  · intro links
    rfl

end OperationCheck.Report
