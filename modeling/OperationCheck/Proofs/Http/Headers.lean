import Mathlib.Data.List.Forall2
import Mathlib.Data.List.TakeWhile
import OperationCheck.Http.Header

/-!
Headers as they are written. The main statement says that arguments are read in their order, or that
the first one that is malformed is refused.
-/

namespace OperationCheck.Text

/-- A trimmed text lies between blank ones, and it does not begin or end with a blank. -/
structure IsTrimmed (text inner : List Char) : Prop where
  between : ∃ before after, (∀ c ∈ before, isBlank c = true) ∧ (∀ c ∈ after, isBlank c = true) ∧
    text = before ++ (inner ++ after)
  beginning : ∀ c ∈ inner.head?, isBlank c = false
  ending : ∀ c ∈ inner.getLast?, isBlank c = false

/-- Dropping blanks takes those in front and stops at the first visible character. -/
theorem dropWhile_isBlank {before inner : List Char} (blank : ∀ c ∈ before, isBlank c = true)
    (beginning : ∀ c ∈ inner.head?, isBlank c = false) :
    (before ++ inner).dropWhile isBlank = inner := by
  rw [List.dropWhile_append_of_pos blank]
  cases inner with
  | nil => rfl
  | cons c inner => rw [List.dropWhile_cons_of_neg (by simp [beginning c rfl])]

/-- What is left begins visibly. -/
theorem isBlank_of_head_dropWhile {text : List Char} {c : Char}
    (isHead : c ∈ (text.dropWhile isBlank).head?) : isBlank c = false := by
  have notBlank := List.head?_dropWhile_not isBlank text
  rw [Option.mem_def.1 isHead] at notBlank
  exact notBlank

/-- Trimming keeps a text without blank ends. -/
theorem isTrimmed_trim (text : List Char) : IsTrimmed text (trim text) := by
  -- the blanks behind the text are the first ones when it is read backwards
  have isRest : text.dropWhile isBlank =
      trim text ++ ((text.dropWhile isBlank).reverse.takeWhile isBlank).reverse := by
    rw [trim, ← List.reverse_append, List.takeWhile_append_dropWhile, List.reverse_reverse]
  refine ⟨⟨text.takeWhile isBlank, ((text.dropWhile isBlank).reverse.takeWhile isBlank).reverse,
    fun c => List.mem_takeWhile_imp, fun c member => ?_, ?_⟩, fun c isHead => ?_, fun c isLast => ?_⟩
  · exact List.mem_takeWhile_imp (List.mem_reverse.1 member)
  · rw [← isRest, List.takeWhile_append_dropWhile]
  · have isFirst : c ∈ (text.dropWhile isBlank).head? := by
      rw [isRest, List.head?_append, Option.mem_def.1 isHead]
      rfl
    exact isBlank_of_head_dropWhile isFirst
  · rw [trim, List.getLast?_reverse] at isLast
    exact isBlank_of_head_dropWhile isLast

/-- A text has one trimmed text. -/
theorem IsTrimmed.trim_eq {text inner : List Char} (isTrimmed : IsTrimmed text inner) :
    trim text = inner := by
  obtain ⟨⟨before, after, blankBefore, blankAfter, rfl⟩, beginning, ending⟩ := isTrimmed
  by_cases empty : inner = []
  · subst empty
    have blank : ∀ c ∈ before ++ after, isBlank c = true := fun c member =>
      (List.mem_append.1 member).elim (blankBefore c) (blankAfter c)
    have nothing : (before ++ after).dropWhile isBlank = [] := List.dropWhile_eq_nil_iff.2 blank
    rw [List.nil_append, trim, nothing]
    rfl
  · have isHead : ∀ c ∈ (inner ++ after).head?, isBlank c = false := by
      rwa [List.head?_append_of_ne_nil _ empty]
    have isLast : ∀ c ∈ inner.reverse.head?, isBlank c = false := by
      rwa [List.head?_reverse]
    have blank : ∀ c ∈ after.reverse, isBlank c = true := fun c member =>
      blankAfter c (List.mem_reverse.1 member)
    rw [trim, dropWhile_isBlank blankBefore isHead, List.reverse_append,
      dropWhile_isBlank blank isLast, List.reverse_reverse]

/-- Trimming leaves nothing just where there were blanks only. -/
theorem trim_eq_nil_iff {text : List Char} : trim text = [] ↔ ∀ c ∈ text, isBlank c = true := by
  constructor
  · intro nothing
    obtain ⟨⟨before, after, blankBefore, blankAfter, isText⟩, -, -⟩ := isTrimmed_trim text
    rw [nothing, List.nil_append] at isText
    rw [isText]
    exact fun c member => (List.mem_append.1 member).elim (blankBefore c) (blankAfter c)
  · intro blank
    refine IsTrimmed.trim_eq ⟨⟨text, [], blank, fun c member => ?_, ?_⟩, ?_, ?_⟩
    · cases member
    · simp
    · rintro c ⟨⟩
    · rintro c ⟨⟩

end OperationCheck.Text

namespace OperationCheck.Http

open OperationCheck.Text

/-- The first colon of an argument is between a name and a value. -/
def Splits (argument : String) (name value : List Char) : Prop :=
  ':' ∉ name ∧ argument.toList = name ++ ':' :: value

/-- An argument without a colon, or with blanks at most in front of the first one. -/
def IsMalformed (argument : String) : Prop :=
  ':' ∉ argument.toList ∨
    ∃ name value, Splits argument name value ∧ ∀ c ∈ name, isBlank c = true

/-- The name of a header is in front of the first colon of an argument, and the value is all that is
behind it. Both are trimmed. -/
def IsHeaderOf (argument : String) (header : Header) : Prop :=
  ∃ name value, Splits argument name value ∧ header.name ≠ "" ∧
    IsTrimmed name header.name.toList ∧ IsTrimmed value header.value.toList

section Reading

variable {argument : String} {name value : List Char} {header : Header}

/-- An argument with a colon splits at its first one. -/
theorem exists_splits (colon : ':' ∈ argument.toList) :
    ∃ name value, Splits argument name value := by
  obtain ⟨name, value, isText, absent⟩ := List.eq_append_cons_of_mem colon
  exact ⟨name, value, absent, isText⟩

theorem ne_colon {text : List Char} (absent : ':' ∉ text) : ∀ c ∈ text, decide (c ≠ ':') = true := by
  refine fun c member => decide_eq_true ?_
  rintro rfl
  exact absent member

/-- What stands before the first colon is the name. -/
theorem Splits.takeWhile_eq (splits : Splits argument name value) :
    argument.toList.takeWhile (· ≠ ':') = name := by
  rw [splits.2, List.takeWhile_append_of_pos (ne_colon splits.1),
    List.takeWhile_cons_of_neg (by decide), List.append_nil]

/-- The colon and what stands behind it is the rest. -/
theorem Splits.dropWhile_eq (splits : Splits argument name value) :
    argument.toList.dropWhile (· ≠ ':') = ':' :: value := by
  rw [splits.2, List.dropWhile_append_of_pos (ne_colon splits.1),
    List.dropWhile_cons_of_neg (by decide)]

/-- An argument without a colon is refused. -/
theorem parse_of_noColon (noColon : ':' ∉ argument.toList) :
    Header.parse argument = .error (.malformed argument) := by
  rw [Header.parse, List.dropWhile_eq_nil_iff.2 (ne_colon noColon)]

/-- An argument with only blanks before its colon is refused. -/
theorem Splits.parse_of_blank (splits : Splits argument name value)
    (blank : ∀ c ∈ name, isBlank c = true) :
    Header.parse argument = .error (.malformed argument) := by
  rw [Header.parse, splits.takeWhile_eq, splits.dropWhile_eq, trim_eq_nil_iff.2 blank]

/-- An argument with a name before its colon is the header of that name and the value, both
trimmed. -/
theorem Splits.parse_of_named (splits : Splits argument name value)
    (named : ¬∀ c ∈ name, isBlank c = true) :
    Header.parse argument = .ok ⟨String.ofList (trim name), String.ofList (trim value)⟩ := by
  rw [Header.parse, splits.takeWhile_eq, splits.dropWhile_eq]
  cases isTrim : trim name with
  | nil => exact absurd (trim_eq_nil_iff.1 isTrim) named
  | cons c rest => rfl

/-- A malformed argument is refused with its own text. -/
theorem IsMalformed.parse_eq (isMalformed : IsMalformed argument) :
    Header.parse argument = .error (.malformed argument) := by
  rcases isMalformed with noColon | ⟨name, value, splits, blank⟩
  · exact parse_of_noColon noColon
  · exact splits.parse_of_blank blank

/-- An argument that spells a header is read as that header. -/
theorem IsHeaderOf.parse_eq (isHeader : IsHeaderOf argument header) :
    Header.parse argument = .ok header := by
  obtain ⟨name, value, splits, named, isName, isValue⟩ := isHeader
  have notBlank : ¬∀ c ∈ name, isBlank c = true := by
    intro blank
    rw [← trim_eq_nil_iff, isName.trim_eq] at blank
    exact named (String.toList_eq_nil_iff.1 blank)
  rw [splits.parse_of_named notBlank, isName.trim_eq, isValue.trim_eq, String.ofList_toList,
    String.ofList_toList]

/-- An argument is malformed, or it has a header. -/
theorem malformed_or_exists_header (argument : String) :
    IsMalformed argument ∨ ∃ header, IsHeaderOf argument header := by
  by_cases colon : ':' ∈ argument.toList
  · obtain ⟨name, value, splits⟩ := exists_splits colon
    by_cases blank : ∀ c ∈ name, isBlank c = true
    · exact .inl (.inr ⟨name, value, splits, blank⟩)
    · refine .inr ⟨⟨String.ofList (trim name), String.ofList (trim value)⟩, name, value, splits, ?_⟩
      rw [String.toList_ofList, String.toList_ofList]
      refine ⟨fun empty => blank (trim_eq_nil_iff.1 ?_), isTrimmed_trim name, isTrimmed_trim value⟩
      exact String.ofList_eq_empty_iff.1 empty
  · exact .inl (.inl colon)

/-- No argument both spells a header and is malformed. -/
theorem IsHeaderOf.not_malformed (isHeader : IsHeaderOf argument header) :
    ¬IsMalformed argument := by
  intro isMalformed
  have isRead := isHeader.parse_eq
  rw [isMalformed.parse_eq] at isRead
  cases isRead

/-- The arguments are read in their order, or the first one that is malformed is refused. -/
theorem mapM_parse_cases (arguments : List String) :
    (∃ headers, arguments.mapM Header.parse = .ok headers ∧
        List.Forall₂ IsHeaderOf arguments headers) ∨
      ∃ front argument behind, arguments = front ++ argument :: behind ∧
        (∀ other ∈ front, ¬IsMalformed other) ∧ IsMalformed argument ∧
        arguments.mapM Header.parse = .error (.malformed argument) := by
  induction arguments with
  | nil => exact .inl ⟨[], rfl, .nil⟩
  | cons first arguments ih =>
      rw [List.mapM_cons]
      rcases malformed_or_exists_header first with isMalformed | ⟨header, isHeader⟩
      · refine .inr ⟨[], first, arguments, rfl, nofun, isMalformed, ?_⟩
        rw [isMalformed.parse_eq]
        rfl
      · rw [isHeader.parse_eq]
        rcases ih with ⟨headers, areRead, areHeaders⟩ | ⟨front, argument, behind, rfl, proper,
          isMalformed, refused⟩
        · refine .inl ⟨header :: headers, ?_, .cons isHeader areHeaders⟩
          rw [areRead]
          rfl
        · refine .inr ⟨first :: front, argument, behind, rfl, ?_, isMalformed, ?_⟩
          · exact List.forall_mem_cons.2 ⟨isHeader.not_malformed, proper⟩
          · rw [refused]
            rfl

/-- Arguments that spell headers are all well formed. -/
theorem proper_of_headers {arguments : List String} {headers : List Header}
    (areHeaders : List.Forall₂ IsHeaderOf arguments headers) :
    ∀ argument ∈ arguments, ¬IsMalformed argument := by
  induction areHeaders with
  | nil => nofun
  | cons isHeader others ih => exact List.forall_mem_cons.2 ⟨isHeader.not_malformed, ih⟩

end Reading

end OperationCheck.Http
