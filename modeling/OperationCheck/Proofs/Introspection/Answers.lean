import OperationCheck.Introspection.Answer

/-!
What counts in an answer. The main statement says that a schema is read in the same way wherever an
answer holds it and whatever stands beside its data, that errors count only where there are no data,
and that a value of any form has a result.
-/

namespace OperationCheck.Introspection

open OperationCheck.Json

/-- This answer holds a schema and nothing else. -/
def bareAnswer (schema : Value) : Value := .object [("__schema", schema)]

/-- Errors tell the texts of their messages in order. An error whose message is no text tells
nothing. -/
inductive Tell : List Value → List String → Prop where
  | nothing : Tell [] []
  | message {error : Value} {errors : List Value} {text : String} {texts : List String}
      (told : error.member? "message" = some (.text text)) (others : Tell errors texts) :
      Tell (error :: errors) (text :: texts)
  | silent {error : Value} {errors : List Value} {texts : List String}
      (untold : ∀ text, error.member? "message" ≠ some (.text text)) (others : Tell errors texts) :
      Tell (error :: errors) texts

/-- An answer has errors and no data. Data that are null count as missing. -/
structure HasOnlyErrors (answer : Value) (errors : List Value) : Prop where
  listed : answer.member? "errors" = some (.list errors)
  nonempty : errors ≠ []
  noData : answer.member? "data" = none ∨ answer.member? "data" = some .null

/-- Only a text has one. -/
theorem text_eq_some_iff {value : Value} {text : String} :
    value.text? = some text ↔ value = .text text := by
  cases value <;> simp [Value.text?]

/-- Only a list has items. -/
theorem list_eq_some_iff {value : Value} {items : List Value} :
    value.list? = some items ↔ value = .list items := by
  cases value <;> simp [Value.list?]

theorem isNull_iff {value : Value} : value.isNull = true ↔ value = .null := by
  cases value <;> simp [Value.isNull]

/-- A member lacks when it is missing or null. -/
theorem lacks_iff {value : Value} {name : String} :
    value.lacks name = true ↔ value.member? name = none ∨ value.member? name = some .null := by
  rw [Value.lacks]
  cases value.member? name with
  | none => exact iff_of_true rfl (.inl rfl)
  | some held => simp [isNull_iff]

/-- Only a message that is a text is told. -/
theorem message_eq_some_iff {error : Value} {text : String} :
    (error.member? "message").bind Value.text? = some text ↔
      error.member? "message" = some (.text text) := by
  rw [Option.bind_eq_some_iff]
  simp only [text_eq_some_iff, exists_eq_right]

/-- Errors tell their messages. -/
theorem tell_messagesOf (errors : List Value) : Tell errors (messagesOf errors) := by
  induction errors with
  | nil => exact .nothing
  | cons error errors ih =>
      rw [messagesOf, List.filterMap_cons]
      cases found : (error.member? "message").bind Value.text? with
      | none =>
          refine .silent (fun text told => ?_) ih
          cases found.symm.trans (message_eq_some_iff.2 told)
      | some text => exact .message (message_eq_some_iff.1 found) ih

/-- Errors tell nothing else. -/
theorem Tell.eq_messagesOf {errors : List Value} {texts : List String} (tell : Tell errors texts) :
    texts = messagesOf errors := by
  induction tell with
  | nothing => rfl
  | message told _ ih =>
      rw [messagesOf, List.filterMap_cons, message_eq_some_iff.2 told, ih]
      rfl
  | @silent error errors texts untold _ ih =>
      have found : (error.member? "message").bind Value.text? = none :=
        Option.eq_none_iff_forall_ne_some.2 fun text told => untold text (message_eq_some_iff.1 told)
      rw [messagesOf, List.filterMap_cons, found, ih]
      rfl

/-- An answer fails with the texts of its errors exactly when it has only errors. -/
theorem failureOf_eq_some_iff {answer : Value} {texts : List String} :
    failureOf answer = some texts ↔ ∃ errors, HasOnlyErrors answer errors ∧ Tell errors texts := by
  constructor
  · intro failed
    rw [failureOf] at failed
    split at failed
    · next first rest found =>
        split at failed
        · next lacks =>
            obtain rfl := Option.some.inj failed
            obtain ⟨value, listed, isList⟩ := Option.bind_eq_some_iff.1 found
            obtain rfl := list_eq_some_iff.1 isList
            exact ⟨first :: rest, ⟨listed, List.cons_ne_nil _ _, lacks_iff.1 lacks⟩,
              tell_messagesOf _⟩
        · cases failed
    · cases failed
  · rintro ⟨errors, only, tell⟩
    obtain ⟨first, rest, rfl⟩ := List.exists_cons_of_ne_nil only.nonempty
    rw [failureOf, only.listed, Option.bind_some, Value.list?, tell.eq_messagesOf]
    exact if_pos (lacks_iff.2 only.noData)

/-- An answer that does not have errors alone is no failure. -/
theorem failureOf_eq_none {answer : Value} (noErrors : ∀ errors, ¬HasOnlyErrors answer errors) :
    failureOf answer = none := by
  refine Option.eq_none_iff_forall_ne_some.2 fun texts failed => ?_
  obtain ⟨errors, only, -⟩ := failureOf_eq_some_iff.1 failed
  exact noErrors errors only

/-- An answer with errors alone fails with their messages. -/
theorem ofAnswer_of_errors {answer : Value} {errors : List Value}
    (only : HasOnlyErrors answer errors) :
    DescribedSchema.ofAnswer answer = .error (.queryFailed (messagesOf errors)) := by
  have failed := failureOf_eq_some_iff.2 ⟨errors, only, tell_messagesOf errors⟩
  rw [DescribedSchema.ofAnswer, failed]

/-- Without a failure, the schema in the data decides. -/
theorem ofAnswer_of_data {answer schema : Value}
    (noErrors : ∀ errors, ¬HasOnlyErrors answer errors)
    (isSchema : (dataOf answer).member? "__schema" = some schema) :
    DescribedSchema.ofAnswer answer = DescribedSchema.ofAnswer (bareAnswer schema) := by
  have bare : failureOf (bareAnswer schema) = none := rfl
  have held : (dataOf (bareAnswer schema)).member? "__schema" = some schema := rfl
  rw [DescribedSchema.ofAnswer, DescribedSchema.ofAnswer, failureOf_eq_none noErrors, isSchema, bare,
    held]

/-- Without a schema and without errors alone, the schema is missing. -/
theorem ofAnswer_of_none {answer : Value} (noErrors : ∀ errors, ¬HasOnlyErrors answer errors)
    (noSchema : (dataOf answer).member? "__schema" = none) :
    DescribedSchema.ofAnswer answer = .error .noSchema := by
  rw [DescribedSchema.ofAnswer, failureOf_eq_none noErrors, noSchema]

/-- Data that hold a schema keep errors from counting. -/
theorem ofAnswer_of_bare {answer schema : Value}
    (isData : answer.member? "data" = some (bareAnswer schema)) :
    DescribedSchema.ofAnswer answer = DescribedSchema.ofAnswer (bareAnswer schema) := by
  refine ofAnswer_of_data (fun errors only => ?_) ?_
  · rcases only.noData with none | null
    · cases isData.symm.trans none
    · cases isData.symm.trans null
  · rw [dataOf, isData]
    rfl

/-- The results of an answer. It fails with its errors, its schema is missing, malformed or no
description of a schema, or it describes one. -/
inductive Gives (answer : Value) : Except AnswerError DescribedSchema → Prop where
  | failure {errors : List Value} {texts : List String} (only : HasOnlyErrors answer errors)
      (tell : Tell errors texts) : Gives answer (.error (.queryFailed texts))
  | missing (noErrors : ∀ errors, ¬HasOnlyErrors answer errors)
      (lacks : (dataOf answer).lacks "__schema" = true) : Gives answer (.error .noSchema)
  | malformed {schema : Value} (noErrors : ∀ errors, ¬HasOnlyErrors answer errors)
      (held : (dataOf answer).member? "__schema" = some schema) (present : schema ≠ .null)
      (undecoded : Listing.decode schema = none) : Gives answer (.error .malformed)
  | undescribed {schema : Value} {listing : Listing} {error : ListingError}
      (noErrors : ∀ errors, ¬HasOnlyErrors answer errors)
      (held : (dataOf answer).member? "__schema" = some schema)
      (decoded : Listing.decode schema = some listing)
      (refused : DescribedSchema.ofListing listing = .error error) :
      Gives answer (.error (.noDescription error))
  | described {schema : Value} {listing : Listing} {described : DescribedSchema}
      (noErrors : ∀ errors, ¬HasOnlyErrors answer errors)
      (held : (dataOf answer).member? "__schema" = some schema)
      (decoded : Listing.decode schema = some listing)
      (isDescribed : DescribedSchema.ofListing listing = .ok described) :
      Gives answer (.ok described)

theorem ofAnswer_bareAnswer {schema : Value} (present : schema ≠ .null) :
    DescribedSchema.ofAnswer (bareAnswer schema) =
      match Listing.decode schema with
      | none => .error .malformed
      | some listing => (DescribedSchema.ofListing listing).mapError .noDescription := by
  cases schema with
  | null => exact absurd rfl present
  | _ => rfl

/-- A value of any form gives a result. -/
theorem gives_ofAnswer (answer : Value) : Gives answer (DescribedSchema.ofAnswer answer) := by
  by_cases hasErrors : ∃ errors, HasOnlyErrors answer errors
  · obtain ⟨errors, only⟩ := hasErrors
    rw [ofAnswer_of_errors only]
    exact .failure only (tell_messagesOf errors)
  have noErrors : ∀ errors, ¬HasOnlyErrors answer errors := not_exists.1 hasErrors
  cases held : (dataOf answer).member? "__schema" with
  | none =>
      rw [ofAnswer_of_none noErrors held]
      exact .missing noErrors (lacks_iff.2 (.inl held))
  | some schema =>
      rw [ofAnswer_of_data noErrors held]
      by_cases isNull : schema = .null
      · subst isNull
        exact .missing noErrors (lacks_iff.2 (.inr held))
      · rw [ofAnswer_bareAnswer isNull]
        cases decoded : Listing.decode schema with
        | none => exact .malformed noErrors held isNull decoded
        | some listing =>
            dsimp only
            cases described : DescribedSchema.ofListing listing with
            | error error => exact .undescribed noErrors held decoded described
            | ok schema => exact .described noErrors held decoded described

/-- A schema gives the same result alone, as the only data, and as the data of an answer with
anything beside them. Errors without data give a failure with their texts, whatever else there is. A
value of any form gives a result. -/
theorem schema_decides_answer :
    (∀ schema, DescribedSchema.ofAnswer (.object [("data", bareAnswer schema)]) =
      DescribedSchema.ofAnswer (bareAnswer schema)) ∧
    (∀ schema answer, answer.member? "data" = some (bareAnswer schema) →
      DescribedSchema.ofAnswer answer = DescribedSchema.ofAnswer (bareAnswer schema)) ∧
    (∀ answer errors, HasOnlyErrors answer errors → ∃ texts, Tell errors texts ∧
      DescribedSchema.ofAnswer answer = .error (.queryFailed texts)) ∧
    ∀ answer, Gives answer (DescribedSchema.ofAnswer answer) := by
  refine ⟨fun schema => ofAnswer_of_bare rfl, fun schema answer isData => ofAnswer_of_bare isData,
    fun answer errors only => ?_, gives_ofAnswer⟩
  exact ⟨messagesOf errors, tell_messagesOf errors, ofAnswer_of_errors only⟩

/-- Of these four errors, the first and the last have a text. -/
def mixedErrors : List Value :=
  [.object [("message", .text "a")], .object [("message", .number "1")], .text "x",
    .object [("message", .text "b")]]

/-- An answer that has data in spite of its errors gives what its schema gives alone, and one
without data gives the texts of its errors, although it holds a schema. -/
theorem schema_decides_answer_mixed :
    DescribedSchema.ofAnswer (.object [("errors", .list mixedErrors),
        ("data", bareAnswer (.text "x")), ("__schema", .null)]) =
      DescribedSchema.ofAnswer (bareAnswer (.text "x")) ∧
    HasOnlyErrors (.object [("__schema", .object []), ("data", .null),
        ("errors", .list mixedErrors)]) mixedErrors ∧
    Tell mixedErrors ["a", "b"] ∧
    DescribedSchema.ofAnswer (.object [("__schema", .object []), ("data", .null),
        ("errors", .list mixedErrors)]) = .error (.queryFailed ["a", "b"]) := by
  obtain ⟨-, sameResult, fails, -⟩ := schema_decides_answer
  have only : HasOnlyErrors (.object [("__schema", .object []), ("data", .null),
      ("errors", .list mixedErrors)]) mixedErrors :=
    ⟨rfl, List.cons_ne_nil _ _, .inr rfl⟩
  obtain ⟨texts, tell, failed⟩ := fails _ _ only
  have isTexts : texts = ["a", "b"] := tell.eq_messagesOf
  rw [isTexts] at tell failed
  exact ⟨sameResult _ _ rfl, only, tell, failed⟩

end OperationCheck.Introspection
