import OperationCheck.Operations.Typed

/-!
The fields that selections give to one object. Fragments are replaced by what they select.
-/

namespace OperationCheck.Operations

open OperationCheck.Language OperationCheck.TypeSystem

structure SelectedField where
  place : Nat
  parent : String
  aliasName : Option String
  definition : FieldDefinition
  arguments : List Argument
  directives : List Directive
  selections : List TypedSelection

/-- The name of a field in the answer. -/
def SelectedField.responseName (field : SelectedField) : String :=
  field.aliasName.getD field.definition.name.text

/-- One level of selections has fields, inline fragments, and fragments that it spreads. The
selections of fragments make up the next level, and a fragment is entered once. -/
structure Level where
  fields : List SelectedField
  next : List TypedSelection
  entered : List String

def Level.add (document : TypedDocument) (level : Level) : TypedSelection → Level
  | .field place parent aliasName definition arguments directives selections =>
      let field := ⟨place, parent, aliasName, definition, arguments, directives, selections⟩
      { level with fields := level.fields ++ [field] }
  | .inline _ _ _ _ selections => { level with next := level.next ++ selections }
  | .spread _ _ name _ =>
      if level.entered.contains name then level
      else
        let selections := ((document.fragment? name).map TypedFragment.selections).getD []
        { level with next := level.next ++ selections, entered := name :: level.entered }

def fieldsOnLevels (document : TypedDocument) :
    Nat → List String → List TypedSelection → List SelectedField
  | 0, _, _ => []
  | steps + 1, entered, selections =>
      let level := selections.foldl (Level.add document) ⟨[], [], entered⟩
      if level.next.isEmpty then level.fields
      else level.fields ++ fieldsOnLevels document steps level.entered level.next

/-- The fields of selections, from the outer levels to the inner ones. -/
def TypedDocument.fieldsOf (document : TypedDocument) (selections : List TypedSelection) :
    List SelectedField :=
  fieldsOnLevels document (document.size + 1) [] selections

end OperationCheck.Operations
