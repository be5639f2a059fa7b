import OperationCheck.Operations.Walk
import OperationCheck.Validation.Directive

/-!
Checking the variables that an operation defines.
-/

namespace OperationCheck.Operations

open OperationCheck.Language OperationCheck.TypeSystem OperationCheck.Validation

/-- The type of a variable must be a known input type, and a default must be of that type. -/
def checkVariableType (schema : Schema) (definition : VariableDefinition) : List Finding :=
  let core := definition.type.core.text
  match schema.body? core with
  | none => [found definition.place (.unknownType core)]
  | some body =>
      if isInput body then
        match definition.default with
        | some value => checkValue schema [] definition.type value
        | none => []
      else [found definition.place (.variableNotInput definition.name)]

/-- A variable is defined once. -/
def checkDistinctVariables (definitions : List VariableDefinition) : List Finding :=
  go [] definitions
where
  go (seen : List String) : List VariableDefinition → List Finding
    | [] => []
    | definition :: rest =>
        let name := definition.name
        demand (!seen.contains name) (found definition.place (.variableDefinedTwice name))
          ++ go (name :: seen) rest

def checkVariableDefinitions (schema : Schema) (definitions : List VariableDefinition) :
    List Finding :=
  (definitions.flatMap fun definition =>
    checkDirectives schema [] "VARIABLE_DEFINITION" definition.directives
      ++ checkVariableType schema definition)
    ++ checkDistinctVariables definitions

/-- The last definitions of the variables that no selection uses. -/
def unusedVariables (used : List String) : List VariableDefinition → List VariableDefinition
  | [] => []
  | definition :: rest =>
      let isLast := !rest.any fun other => other.name == definition.name
      let others := unusedVariables used rest
      if isLast && !used.contains definition.name then definition :: others else others

def checkUnusedVariables (document : TypedDocument) (operation : TypedOperation) :
    List Finding :=
  (unusedVariables (document.variablesOf operation) operation.definedVariables).map fun definition =>
    found definition.place (.unusedVariable definition.name)

end OperationCheck.Operations
