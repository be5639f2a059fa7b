import OperationCheck.Introspection.Schema

/-!
Answers to the query for a schema. An answer holds its data or errors, and data alone are an answer
too.
-/

namespace OperationCheck.Introspection

open OperationCheck.Json

inductive AnswerError where
  | queryFailed (messages : List String)
  | noSchema
  | malformed
  | noDescription (error : ListingError)
deriving Repr, DecidableEq

def AnswerError.message : AnswerError → String
  | .queryFailed messages => "Introspection query failed: " ++ "; ".intercalate messages
  | .noSchema => "Introspection result has no \x60__schema\x60 field"
  | .malformed => "Malformed introspection result"
  | .noDescription _ => "Introspection result does not describe a schema"

/-- Errors that are not texts have no message. -/
def messagesOf (errors : List Value) : List String :=
  errors.filterMap fun error => (error.member? "message").bind Value.text?

/-- The errors of an answer that has no data. -/
def failureOf (answer : Value) : Option (List String) :=
  match (answer.member? "errors").bind Value.list? with
  | some (first :: rest) =>
      if answer.lacks "data" then some (messagesOf (first :: rest)) else none
  | _ => none

/-- The data of an answer, or all of it. -/
def dataOf (answer : Value) : Value := (answer.member? "data").getD answer

/-- This function reads the schema that an answer describes. -/
def DescribedSchema.ofAnswer (answer : Value) : Except AnswerError DescribedSchema :=
  match failureOf answer with
  | some messages => .error (.queryFailed messages)
  | none =>
      match (dataOf answer).member? "__schema" with
      | none | some .null => .error .noSchema
      | some schema =>
          match Listing.decode schema with
          | none => .error .malformed
          | some listing =>
              (DescribedSchema.ofListing listing).mapError AnswerError.noDescription

end OperationCheck.Introspection
