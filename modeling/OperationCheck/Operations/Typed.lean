import OperationCheck.TypeSystem.Schema

/-!
Operations whose fields have been found in a schema.
-/

namespace OperationCheck.Operations

open OperationCheck.Language OperationCheck.TypeSystem

/-- Each selection knows the type that it selects from, and each field knows its definition. -/
inductive TypedSelection where
  | field (place : Nat) (parent : String) (aliasName : Option String) (definition : FieldDefinition)
      (arguments : List Argument) (directives : List Directive)
      (selections : List TypedSelection)
  | spread (place : Nat) (parent : String) (name : String) (directives : List Directive)
  | inline (place : Nat) (parent : String) (condition : Option String)
      (directives : List Directive) (selections : List TypedSelection)
deriving Repr

structure TypedOperation where
  place : Nat
  kind : OperationKind
  name : Option String
  definedVariables : List VariableDefinition
  directives : List Directive
  root : String
  selections : List TypedSelection
deriving Repr

structure TypedFragment where
  place : Nat
  name : String
  condition : String
  directives : List Directive
  selections : List TypedSelection
deriving Repr

/-- A document has at most one operation without a name, and it comes first. -/
structure TypedDocument where
  anonymous : Option TypedOperation
  named : List TypedOperation
  fragments : List TypedFragment
deriving Repr

def TypedDocument.empty : TypedDocument := ⟨none, [], []⟩

def TypedDocument.operations (document : TypedDocument) : List TypedOperation :=
  document.anonymous.toList ++ document.named

def TypedDocument.fragment? (document : TypedDocument) (name : String) : Option TypedFragment :=
  document.fragments.find? fun fragment => fragment.name == name

def TypedSelection.directives : TypedSelection → List Directive
  | .field _ _ _ _ _ directives _ | .spread _ _ _ directives | .inline _ _ _ directives _ =>
      directives

mutual

/-- The number of selections within a selection. -/
def TypedSelection.size : TypedSelection → Nat
  | .field _ _ _ _ _ _ selections | .inline _ _ _ _ selections => sizeOfAll selections + 1
  | .spread _ _ _ _ => 1

def sizeOfAll : List TypedSelection → Nat
  | [] => 0
  | selection :: rest => selection.size + sizeOfAll rest

end

/-- No way through a document enters more selections one after another, unless it comes back to a
fragment. -/
def TypedDocument.size (document : TypedDocument) : Nat :=
  sizeOfAll (document.operations.flatMap TypedOperation.selections
    ++ document.fragments.flatMap TypedFragment.selections)

end OperationCheck.Operations
