import OperationCheck.Operations.Typed
import OperationCheck.Validation.Reference

/-!
Walking through the selections of an operation. A walk enters the fragments that are spread.
-/

namespace OperationCheck.Operations

open OperationCheck.Language OperationCheck.TypeSystem OperationCheck.Validation

mutual

/-- The fragments that are spread within a selection. -/
def TypedSelection.spreads : TypedSelection → List String
  | .field _ _ _ _ _ _ selections | .inline _ _ _ _ selections => spreadsOfAll selections
  | .spread _ _ name _ => [name]

def spreadsOfAll : List TypedSelection → List String
  | [] => []
  | selection :: rest => selection.spreads ++ spreadsOfAll rest

end

/-- The fragments that are spread directly within a fragment. -/
def TypedDocument.spreadsIn (document : TypedDocument) (name : String) : List String :=
  match document.fragment? name with
  | some fragment => spreadsOfAll fragment.selections
  | none => []

/-- The names that fragments are spread by, from the given selections on. -/
def TypedDocument.reached (document : TypedDocument) (selections : List TypedSelection) :
    List String :=
  reach document.spreadsIn (document.fragments.length + 1)
    ((spreadsOfAll selections).foldl addOnce [])

mutual

def variablesOf : Value → List String
  | .variable _ name => [name]
  | .list _ items => variablesOfItems items
  | .object _ fields => variablesOfFields fields
  | _ => []

def variablesOfItems : List Value → List String
  | [] => []
  | item :: items => variablesOf item ++ variablesOfItems items

def variablesOfFields : List (String × Value) → List String
  | [] => []
  | (_, value) :: fields => variablesOf value ++ variablesOfFields fields

end

def variablesOfArguments (arguments : List Argument) : List String :=
  arguments.flatMap fun argument => variablesOf argument.value

def variablesOfDirectives (directives : List Directive) : List String :=
  directives.flatMap fun directive => variablesOfArguments directive.arguments

mutual

/-- The variables that are used within a selection. -/
def TypedSelection.usedVariables : TypedSelection → List String
  | .field _ _ _ _ arguments directives selections =>
      variablesOfArguments arguments ++ variablesOfDirectives directives
        ++ variablesOfAll selections
  | .spread _ _ _ directives => variablesOfDirectives directives
  | .inline _ _ _ directives selections =>
      variablesOfDirectives directives ++ variablesOfAll selections

def variablesOfAll : List TypedSelection → List String
  | [] => []
  | selection :: rest => selection.usedVariables ++ variablesOfAll rest

end

/-- The variables that are used anywhere in an operation. -/
def TypedDocument.variablesOf (document : TypedDocument) (operation : TypedOperation) :
    List String :=
  variablesOfDirectives operation.directives ++ variablesOfAll operation.selections
    ++ ((document.reached operation.selections).filterMap document.fragment?).flatMap
      fun fragment => variablesOfDirectives fragment.directives
        ++ variablesOfAll fragment.selections

end OperationCheck.Operations
