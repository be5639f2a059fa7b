import OperationCheck.TypeSystem.Implementing
import OperationCheck.TypeSystem.Nesting
import OperationCheck.Validation.Directive

/-!
Checking the definitions of a schema against each other.
-/

namespace OperationCheck.TypeSystem

open OperationCheck.Language OperationCheck.Validation

/-- Names with two underscores in front are reserved. -/
def checkName (description : String) (name : Name) : List Finding :=
  demand (!name.text.startsWith "__") (found name.place (.reservedName description name.text))

/-- Directives in a schema have no variables. -/
def checkFixedDirectives (schema : Schema) : String → List Directive → List Finding :=
  checkDirectives schema []

/-- The type of an argument or of an input field must be known, and it must be an input type. -/
def checkInputType (schema : Schema) (input : InputValue) : List Finding :=
  let core := input.type.core
  match schema.body? core.text with
  | none => [found core.place (.unknownType core.text)]
  | some body => demand (isInput body) (found input.place (.notInput input.name.text))

def checkInput (schema : Schema) (description location : String) (input : InputValue) :
    List Finding :=
  checkName description input.name ++ checkFixedDirectives schema location input.directives
    ++ checkInputType schema input

/-- The first definition of an argument is the one that is told of. -/
def checkDistinctInputs (inputs : List InputValue) : List Finding :=
  go [] inputs
where
  go (seen : List InputValue) : List InputValue → List Finding
    | [] => []
    | input :: rest =>
        match seen.find? fun other => other.name.text == input.name.text with
        | some other =>
            found other.place (.argumentDefinedTwice input.name.text) :: go seen rest
        | none => go (seen ++ [input]) rest

def checkArgumentDefinitions (schema : Schema) (arguments : List InputValue) : List Finding :=
  arguments.flatMap (checkInput schema "an argument" "ARGUMENT_DEFINITION")
    ++ checkDistinctInputs arguments

/-- The type of a field must be known, and it must be an output type. -/
def checkFieldType (schema : Schema) (field : FieldDefinition) : List Finding :=
  let core := field.type.core
  match schema.body? core.text with
  | none => [found core.place (.unknownType core.text)]
  | some body => demand (isOutput body) (found field.place (.notOutput field.name.text))

def checkField (schema : Schema) (field : FieldDefinition) : List Finding :=
  checkName "a field" field.name
    ++ checkFixedDirectives schema "FIELD_DEFINITION" field.directives
    ++ checkArgumentDefinitions schema field.arguments ++ checkFieldType schema field

/-- A member of a union must be a known object type. -/
def checkMember (schema : Schema) (member : Name) : List Finding :=
  match schema.body? member.text with
  | none => [found member.place (.unknownType member.text)]
  | some (.object _ _) => []
  | some _ => [found member.place (.memberNotObject member.text)]

def checkEnumValue (schema : Schema) (value : EnumValue) : List Finding :=
  checkName "an enum value" value.name
    ++ checkFixedDirectives schema "ENUM_VALUE" value.directives

/-- The location of the directives of a type. -/
def typeLocation : TypeBody → String
  | .scalar => "SCALAR"
  | .object _ _ => "OBJECT"
  | .interface _ _ => "INTERFACE"
  | .union _ => "UNION"
  | .enum _ => "ENUM"
  | .inputObject _ => "INPUT_OBJECT"

/-- A type must have at least one part of its kind. -/
def checkParts (schema : Schema) (definition : TypeDefinition) : List Finding :=
  let name := definition.name.text
  let atLeastOne {α : Type} (parts : List α) (cause : Cause) :=
    demand (!parts.isEmpty) (found definition.place cause)
  match definition.body with
  | .scalar => []
  | .object _ fields =>
      fields.flatMap (checkField schema) ++ atLeastOne fields (.noFields name)
        ++ checkInterfaces schema definition
  | .interface interfaces fields =>
      checkOwnInterface definition interfaces ++ fields.flatMap (checkField schema)
        ++ atLeastOne fields (.noFields name) ++ checkInterfaces schema definition
  | .union members =>
      members.flatMap (checkMember schema) ++ atLeastOne members (.noMembers name)
  | .enum values =>
      values.flatMap (checkEnumValue schema) ++ atLeastOne values (.noEnumValues name)
  | .inputObject fields =>
      checkInputNesting schema definition
        ++ fields.flatMap (checkInput schema "an input field" "INPUT_FIELD_DEFINITION")
        ++ atLeastOne fields (.noInputs name)

def checkType (schema : Schema) (definition : TypeDefinition) : List Finding :=
  checkName definition.body.description definition.name
    ++ checkFixedDirectives schema (typeLocation definition.body) definition.directives
    ++ checkParts schema definition

def checkDirectiveDefinition (schema : Schema) (definition : DirectiveDefinition) :
    List Finding :=
  checkName "a directive definition" definition.name
    ++ checkArgumentDefinitions schema definition.arguments
    ++ checkDirectiveNesting schema definition

/-- The type of operations of a kind must be a known object type. -/
def checkRoot (schema : Schema) (root : RootType) : List Finding :=
  let name := root.type.text
  match schema.body? name with
  | none => [found root.type.place (.unknownType name)]
  | some (.object _ _) => []
  | some _ => [found root.type.place (.rootNotObject name)]

/-- A type is used for one kind of operations. -/
def checkDistinctRoots (roots : List RootType) : List Finding :=
  go [] roots
where
  go (seen : List String) : List RootType → List Finding
    | [] => []
    | root :: rest =>
        let name := root.type.text
        demand (!seen.contains name) (found root.type.place (.sharedRoot name))
          ++ go (name :: seen) rest

/-- A schema has queries. -/
def checkRoots (schema : Schema) : List Finding :=
  demand (schema.root? .query).isSome ⟨schema.place, .missingQuery⟩
    ++ schema.roots.flatMap (checkRoot schema) ++ checkDistinctRoots schema.roots
    ++ checkFixedDirectives schema "SCHEMA" schema.schemaDirectives

/-- This function checks everything in a schema that is not built in. -/
def check (schema : Schema) : List Finding :=
  checkRoots schema
    ++ (schema.directives.filter fun known => !known.isBuiltIn).flatMap
      (fun known => checkDirectiveDefinition schema known.definition)
    ++ (schema.types.filter fun known => !known.isBuiltIn).flatMap
      fun known => checkType schema known.definition

end OperationCheck.TypeSystem
