import OperationCheck.TypeSystem.Schema
import OperationCheck.Validation.Finding
import OperationCheck.Validation.Reference

/-!
Definitions that need themselves. No value exists of an input object that requires another value of
its type, and a directive is not used to define itself.
-/

namespace OperationCheck.TypeSystem

open OperationCheck.Language OperationCheck.Validation

/-- Definitions are followed over this many names. -/
def nestingLimit : Nat := 32

/-- A list can be empty, so only types that are named directly are required. -/
def requiredName : TypeRef → Option String
  | .nonNull (.named name) => some name.text
  | _ => none

/-- The input objects that a value of an input object cannot do without. -/
def Schema.requiredInputs (schema : Schema) (type : String) : List String :=
  match schema.body? type with
  | some (.inputObject fields) =>
      (fields.filterMap fun field => requiredName field.type).filter fun name =>
        match schema.body? name with
        | some (.inputObject _) => true
        | _ => false
  | _ => []

def appliedNames (directives : List Directive) : List String :=
  directives.map fun directive => directive.name.text

/-- The types of the fields of an input object. -/
def Schema.fieldTypes (schema : Schema) (type : String) : List String :=
  match schema.body? type with
  | some (.inputObject fields) => fields.map fun field => field.type.core.text
  | _ => []

/-- The directives on a type and on its parts that can be inputs. -/
def Schema.directivesOn (schema : Schema) (type : String) : List String :=
  match schema.type? type with
  | some definition =>
      appliedNames definition.directives ++
        match definition.body with
        | .enum values => values.flatMap fun value => appliedNames value.directives
        | .inputObject fields => fields.flatMap fun field => appliedNames field.directives
        | _ => []
  | none => []

/-- The directives that are used on the arguments of a directive and on their types. -/
def Schema.directivesWithin (schema : Schema) (name : String) : List String :=
  match schema.directive? name with
  | some definition =>
      let types := definition.arguments.map fun argument => argument.type.core.text
      ((definition.arguments.flatMap fun argument => appliedNames argument.directives)
        ++ (reach schema.fieldTypes schema.types.length types).flatMap schema.directivesOn).filter
          fun used => (schema.directive? used).isSome
  | none => []

def troubleFinding (place : Nat) (name : String) (cycle : String → Cause) :
    Option Trouble → List Finding
  | some .cycle => [found place (cycle name)]
  | some .tooLong => [found place (.tooNested name)]
  | none => []

def checkInputNesting (schema : Schema) (definition : TypeDefinition) : List Finding :=
  let name := definition.name.text
  troubleFinding definition.place name .cyclicInput
    (findTrouble schema.requiredInputs nestingLimit name)

def checkDirectiveNesting (schema : Schema) (definition : DirectiveDefinition) : List Finding :=
  let name := definition.name.text
  troubleFinding definition.place name .cyclicDirective
    (findTrouble schema.directivesWithin nestingLimit name)

end OperationCheck.TypeSystem
