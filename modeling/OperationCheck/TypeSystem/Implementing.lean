import OperationCheck.TypeSystem.Schema
import OperationCheck.Validation.Finding

/-!
Types that implement interfaces. Such a type has all fields of the interface with all their
arguments, and it implements what the interface implements.
-/

namespace OperationCheck.TypeSystem

open OperationCheck.Language OperationCheck.Validation

/-- An interface must exist, and its interfaces are implemented too. -/
def checkParents (schema : Schema) (definition : TypeDefinition) (interface : Name) :
    List Finding :=
  match schema.body? interface.text with
  | some (.interface parents _) =>
      parents.flatMap fun parent =>
        demand ((interfacesOf definition.body).any fun held => held.text == parent.text)
          (found definition.place
            (.missingInterface definition.name.text interface.text parent.text))
  | _ => [found interface.place (.unknownType interface.text)]

/-- An argument of the interface has the same type in the field. -/
def checkExpectedArgument (type interface : String) (field : FieldDefinition)
    (expected : InputValue) : List Finding :=
  let name := expected.name.text
  match field.arguments.find? fun argument => argument.name.text == name with
  | none => [found field.place (.missingArgument interface type field.name.text name)]
  | some argument =>
      demand (sameType argument.type expected.type) (found argument.place
        (.argumentTypeMismatch interface type field.name.text name expected.type.text
          argument.type.text))

/-- Arguments that the interface does not have are optional. -/
def checkOwnArgument (type interface : String) (field expected : FieldDefinition)
    (argument : InputValue) : List Finding :=
  let isExpected := expected.arguments.any fun other => other.name.text == argument.name.text
  demand (isExpected || !argument.isRequired) (found argument.place
    (.extraRequiredArgument interface type field.name.text argument.name.text))

/-- A field of the interface exists, and what it answers is no wider than the interface says. -/
def checkExpectedField (schema : Schema) (definition : TypeDefinition) (interface : String)
    (expected : FieldDefinition) : List Finding :=
  let type := definition.name.text
  match findField (fieldsOf definition.body) expected.name.text with
  | none => [found definition.place (.missingField type interface expected.name.text)]
  | some field =>
      demand (schema.isNarrower field.type expected.type) (found field.place
          (.fieldTypeMismatch interface type field.name.text expected.type.text field.type.text))
        ++ expected.arguments.flatMap (checkExpectedArgument type interface field)
        ++ field.arguments.flatMap (checkOwnArgument type interface field expected)

def checkExpectedFields (schema : Schema) (definition : TypeDefinition) (interface : Name) :
    List Finding :=
  match schema.body? interface.text with
  | some (.interface _ fields) =>
      fields.flatMap (checkExpectedField schema definition interface.text)
  | _ => []

/-- This function checks a type against its interfaces. -/
def checkInterfaces (schema : Schema) (definition : TypeDefinition) : List Finding :=
  let interfaces := interfacesOf definition.body
  interfaces.flatMap (checkParents schema definition)
    ++ interfaces.flatMap (checkExpectedFields schema definition)

/-- An interface does not implement itself. -/
def checkOwnInterface (definition : TypeDefinition) (interfaces : List Name) : List Finding :=
  (interfaces.filter fun held => held.text == definition.name.text).map fun held =>
    found held.place (.cyclicInterface held.text)

end OperationCheck.TypeSystem
