import OperationCheck.Operations.Walk
import OperationCheck.Validation.Directive

/-!
Checking the selections of an operation and of the fragments that it reaches.
-/

namespace OperationCheck.Operations

open OperationCheck.Language OperationCheck.TypeSystem OperationCheck.Validation

/-- Selections are checked for one operation, with the variables that it defines. -/
structure Scope where
  schema : Schema
  document : TypedDocument
  definedVariables : List VariableDefinition

def isCompositeType (schema : Schema) (type : String) : Bool :=
  (schema.body? type).any isComposite

/-- A fragment can be applied where some object has both its type and the type around it. -/
def isPossible (schema : Schema) (parent condition : String) : Bool :=
  parent == condition ||
    (schema.possibleTypes condition).any (schema.possibleTypes parent).contains

def Scope.checkDirectives (scope : Scope) (location : String) (directives : List Directive) :
    List Finding :=
  Validation.checkDirectives scope.schema scope.definedVariables location directives

/-- A field gets the arguments that it needs. -/
def Scope.checkField (scope : Scope) (place : Nat) (parent : String)
    (definition : FieldDefinition) (arguments : List Argument) : List Finding :=
  checkDistinct arguments ++ checkArguments scope.schema scope.definedVariables
    (.field parent definition.name.text) place definition.arguments arguments

/-- A fragment must be known and possible where it is spread. -/
def Scope.checkSpread (scope : Scope) (place : Nat) (parent name : String) : List Finding :=
  match scope.document.fragment? name with
  | none => [found place (.undefinedFragment name)]
  | some fragment =>
      demand (isPossible scope.schema parent fragment.condition)
        (found place (.impossibleFragment (some name) fragment.condition parent))

mutual

def Scope.checkSelection (scope : Scope) : TypedSelection → List Finding
  | .field place parent _ definition arguments directives selections =>
      scope.checkDirectives "FIELD" directives
        ++ scope.checkField place parent definition arguments
        ++ (if selections.isEmpty then
          demand (!isCompositeType scope.schema definition.type.core.text)
            (found place .missingSelection)
        else scope.checkSelections selections)
  | .spread place parent name directives =>
      scope.checkDirectives "FRAGMENT_SPREAD" directives ++ scope.checkSpread place parent name
  | .inline _ _ none directives selections =>
      scope.checkDirectives "INLINE_FRAGMENT" directives ++ scope.checkSelections selections
  | .inline place parent (some condition) directives selections =>
      scope.checkDirectives "INLINE_FRAGMENT" directives
        ++ if isCompositeType scope.schema condition then
          demand (isPossible scope.schema parent condition)
              (found place (.impossibleFragment none condition parent))
            ++ scope.checkSelections selections
        else [found place (.fragmentOnLeaf none)]

def Scope.checkSelections (scope : Scope) : List TypedSelection → List Finding
  | [] => []
  | selection :: rest => scope.checkSelection selection ++ scope.checkSelections rest

end

mutual

/-- The fragments that are spread where selections are checked. -/
def Scope.enteredBy (scope : Scope) : TypedSelection → List String
  | .field _ _ _ _ _ _ selections | .inline _ _ none _ selections =>
      scope.enteredByAll selections
  | .spread _ _ name _ => [name]
  | .inline _ _ (some condition) _ selections =>
      if isCompositeType scope.schema condition then scope.enteredByAll selections else []

def Scope.enteredByAll (scope : Scope) : List TypedSelection → List String
  | [] => []
  | selection :: rest => scope.enteredBy selection ++ scope.enteredByAll rest

end

/-- Ways through fragments are followed over this many names. -/
def fragmentLimit : Nat := 100

def TypedDocument.knownSpreadsIn (document : TypedDocument) (name : String) : List String :=
  (document.spreadsIn name).filter fun other => (document.fragment? other).isSome

/-- A fragment is for a composite type, and it does not spread itself. -/
def Scope.checkFragmentForm (scope : Scope) (fragment : TypedFragment) : List Finding :=
  let name := fragment.name
  demand (isCompositeType scope.schema fragment.condition)
      (found fragment.place (.fragmentOnLeaf (some name)))
    ++ match findTrouble scope.document.knownSpreadsIn fragmentLimit name with
      | some .cycle => [found fragment.place (.cyclicFragment name)]
      | some .tooLong => [found fragment.place (.tooNested name)]
      | none => []

def Scope.isSound (scope : Scope) (fragment : TypedFragment) : Bool :=
  (scope.checkFragmentForm fragment).isEmpty

/-- Only the selections of a sound fragment are checked. -/
def Scope.checkFragment (scope : Scope) (fragment : TypedFragment) : List Finding :=
  scope.checkDirectives "FRAGMENT_DEFINITION" fragment.directives
    ++ scope.checkFragmentForm fragment
    ++ if scope.isSound fragment then scope.checkSelections fragment.selections else []

def Scope.enteredIn (scope : Scope) (name : String) : List String :=
  match scope.document.fragment? name with
  | some fragment =>
      if scope.isSound fragment then scope.enteredByAll fragment.selections else []
  | none => []

/-- Each fragment that an operation reaches is checked once. -/
def Scope.checkAll (scope : Scope) (selections : List TypedSelection) : List Finding :=
  let names := reach scope.enteredIn (scope.document.fragments.length + 1)
    ((scope.enteredByAll selections).foldl addOnce [])
  scope.checkSelections selections
    ++ (names.filterMap scope.document.fragment?).flatMap scope.checkFragment

end OperationCheck.Operations
