import OperationCheck.Operations.Typed
import OperationCheck.Validation.Finding
import OperationCheck.Validation.Reference

/-!
Subscriptions answer one thing. They have one root field, which is not about the schema, and nothing
at the root depends on a condition.
-/

namespace OperationCheck.Operations

open OperationCheck.Language OperationCheck.TypeSystem OperationCheck.Validation

mutual

/-- The selections at the root of selections come with the contents of inline fragments. -/
def TypedSelection.atRoot : TypedSelection → List TypedSelection
  | selection@(.inline _ _ _ _ selections) => selection :: atRootOfAll selections
  | selection => [selection]

def atRootOfAll : List TypedSelection → List TypedSelection
  | [] => []
  | selection :: rest => selection.atRoot ++ atRootOfAll rest

end

def spreadName : TypedSelection → Option String
  | .spread _ _ name _ => some name
  | _ => none

def TypedDocument.rootOf (document : TypedDocument) (name : String) : List TypedSelection :=
  match document.fragment? name with
  | some fragment => atRootOfAll fragment.selections
  | none => []

/-- All selections at the root of an operation. A fragment is entered once. -/
def TypedDocument.rootSelections (document : TypedDocument) (operation : TypedOperation) :
    List TypedSelection :=
  let root := atRootOfAll operation.selections
  let names := reach (fun name => (document.rootOf name).filterMap spreadName)
    (document.fragments.length + 1) ((root.filterMap spreadName).foldl addOnce [])
  root ++ names.flatMap document.rootOf

def isIntrospection (name : String) : Bool := ["__schema", "__type", "__typename"].contains name

/-- The place of a field that is about the schema. -/
def introspectionPlace : TypedSelection → Option Nat
  | .field place _ _ definition _ _ _ =>
      if isIntrospection definition.name.text then some place else none
  | _ => none

def isField : TypedSelection → Bool
  | .field _ _ _ _ _ _ _ => true
  | _ => false

/-- The first directive that makes a selection depend on a condition. -/
def conditionOf (selection : TypedSelection) : Option Directive :=
  selection.directives.find? fun directive => ["skip", "include"].contains directive.name.text

/-- This function checks the root of a subscription. -/
def checkSubscription (document : TypedDocument) (operation : TypedOperation) : List Finding :=
  match operation.kind with
  | .subscription =>
      let root := document.rootSelections operation
      let introspections := (root.filterMap introspectionPlace).map fun place =>
        found place (.subscriptionIntrospection operation.name)
      let conditions := (root.filterMap conditionOf).map fun directive =>
        found directive.place (.subscriptionCondition operation.name)
      introspections ++ conditions
        ++ demand ((root.filter isField).length ≤ 1)
          (found operation.place (.manySubscriptionFields operation.name))
  | _ => []

end OperationCheck.Operations
