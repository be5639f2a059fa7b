import OperationCheck.Operations.Sameness
import OperationCheck.Validation.Finding

/-!
Checking that the fields of an operation can be merged. Sets of fields that were seen before are not
checked again, so that the check also ends for fragments that spread themselves.
-/

namespace OperationCheck.Operations

open OperationCheck.Language OperationCheck.TypeSystem OperationCheck.Validation

mutual

/-- A text that tells values apart without their places. -/
def valueKey : Value → String
  | .variable _ name => "$" ++ name
  | .int _ digits => "i" ++ digits
  | .float _ digits => "f" ++ digits
  | .text _ content => content.quote
  | .boolean _ value => if value then "true" else "false"
  | .null _ => "null"
  | .choice _ name => "e" ++ name
  | .list _ items => "[" ++ itemsKey items ++ "]"
  | .object _ fields => "(" ++ fieldsKey fields ++ ")"

def itemsKey : List Value → String
  | [] => ""
  | item :: items => valueKey item ++ "," ++ itemsKey items

def fieldsKey : List (String × Value) → String
  | [] => ""
  | (name, value) :: fields => name ++ ":" ++ valueKey value ++ "," ++ fieldsKey fields

end

def argumentsKey (arguments : List Argument) : String :=
  "(" ++ String.join (arguments.map fun argument =>
    argument.name.text ++ ":" ++ valueKey argument.value ++ ",") ++ ")"

def directivesKey (directives : List Directive) : String :=
  String.join (directives.map fun directive =>
    "@" ++ directive.name.text ++ argumentsKey directive.arguments)

mutual

/-- A text that tells selections apart without their places. -/
def TypedSelection.key : TypedSelection → String
  | .field _ _ aliasName definition arguments directives selections =>
      (aliasName.map (· ++ ":")).getD "" ++ definition.name.text ++ argumentsKey arguments
        ++ directivesKey directives ++ "<" ++ keyOfAll selections ++ ">"
  | .spread _ _ name directives => "..." ++ name ++ directivesKey directives
  | .inline _ _ condition directives selections =>
      "... on " ++ condition.getD "" ++ directivesKey directives
        ++ "<" ++ keyOfAll selections ++ ">"

def keyOfAll : List TypedSelection → String
  | [] => ""
  | selection :: rest => selection.key ++ " " ++ keyOfAll rest

end

def SelectedField.key (field : SelectedField) : String :=
  field.parent ++ "." ++ (field.aliasName.map (· ++ ":")).getD "" ++ field.definition.name.text
    ++ argumentsKey field.arguments ++ directivesKey field.directives
    ++ "<" ++ keyOfAll field.selections ++ ">"

def setKey (fields : List SelectedField) : String :=
  String.join (fields.map fun field => field.key ++ " ")

/-- The check knows the sets that were compared by shape and the ones that were compared as fields,
and it knows whether some set was too deep to be compared. -/
structure Merging where
  shaped : List String
  compared : List String
  isTooDeep : Bool
  findings : List Finding

def Merging.empty : Merging := ⟨[], [], false, []⟩

/-- The first field is compared with each of the others. -/
def compareFirst (compare : SelectedField → SelectedField → Option Cause) :
    List SelectedField → List Finding
  | [] => []
  | first :: rest => rest.filterMap fun other => (compare first other).map (found other.place)

def compareShapes (schema : Schema) (first second : SelectedField) : Option Cause :=
  if sameShape schema first.definition.type second.definition.type then none
  else some (.differentTypes first.responseName)

def compareFields (first second : SelectedField) : Option Cause :=
  if first.definition.name.text ≠ second.definition.name.text then
    some (.differentFields first.responseName)
  else if sameArguments first.arguments second.arguments then none
  else some (.differentArguments first.definition.name.text)

/-- What fields of one name select together. -/
def TypedDocument.nestedFields (document : TypedDocument) (fields : List SelectedField) :
    List SelectedField :=
  document.fieldsOf (fields.flatMap SelectedField.selections)

def hasNested (fields : List SelectedField) : Bool :=
  fields.any fun field => !field.selections.isEmpty

/-- Fields of one name have one shape. The room is the number of levels to go. -/
def Merging.checkShapes (schema : Schema) (document : TypedDocument) :
    Nat → Merging → List SelectedField → Merging
  | room, merging, fields =>
      if merging.shaped.contains (setKey fields) then merging
      else
        let merging := { merging with shaped := setKey fields :: merging.shaped }
        (groupBy SelectedField.responseName fields).foldl (fun merging group =>
          let findings := compareFirst (compareShapes schema) group
          let merging := { merging with findings := merging.findings ++ findings }
          if hasNested group then
            match room with
            | 0 => { merging with isTooDeep := true }
            | room + 1 =>
                Merging.checkShapes schema document room merging (document.nestedFields group)
          else merging) merging

/-- Fields of one name that may meet in an object are the same. -/
def Merging.checkFields (schema : Schema) (document : TypedDocument) :
    Nat → Merging → List SelectedField → Merging
  | room, merging, fields =>
      if merging.compared.contains (setKey fields) then merging
      else
        let merging := { merging with compared := setKey fields :: merging.compared }
        let groups :=
          (groupBy SelectedField.responseName fields).flatMap (meetingGroups schema)
        groups.foldl (fun merging group =>
          let findings := compareFirst compareFields group
          let merging := { merging with findings := merging.findings ++ findings }
          if hasNested group then
            match room with
            | 0 => { merging with isTooDeep := true }
            | room + 1 =>
                Merging.checkFields schema document room merging (document.nestedFields group)
          else merging) merging

/-- Fields within fields are compared over this many levels. -/
def mergingLimit : Nat := 128

/-- Once a set was too deep, this is told of every operation. -/
def Merging.checkOperation (schema : Schema) (document : TypedDocument) (merging : Merging)
    (operation : TypedOperation) : Merging :=
  let fields := document.fieldsOf operation.selections
  let shaped := merging.checkShapes schema document mergingLimit fields
  let compared := shaped.checkFields schema document mergingLimit fields
  let tooDeep := if compared.isTooDeep then [found operation.place .tooRecursive] else []
  { compared with findings := compared.findings ++ tooDeep }

end OperationCheck.Operations
