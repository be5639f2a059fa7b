import OperationCheck.TypeSystem.BuiltIn

/-!
The types that a schema uses. A built-in scalar belongs to a schema only if something in the schema
is of that type.
-/

namespace OperationCheck.TypeSystem

open OperationCheck.Language

def coreNames (inputs : List InputValue) : List String :=
  inputs.map fun input => input.type.core.text

/-- The types of the parts of a type. -/
def usedInBody : TypeBody → List String
  | .object _ fields | .interface _ fields =>
      fields.flatMap fun field => field.type.core.text :: coreNames field.arguments
  | .inputObject fields => coreNames fields
  | _ => []

def Schema.usedTypes (schema : Schema) : List String :=
  (schema.types.flatMap fun known => usedInBody known.definition.body)
    ++ schema.directives.flatMap fun known => coreNames known.definition.arguments

/-- A schema without the built-in scalars that it does not use. -/
def Schema.withoutUnused (schema : Schema) : Schema :=
  let used := schema.usedTypes
  { schema with
    types := schema.types.filter fun known =>
      let name := known.definition.name.text
      !isBuiltInScalar name || used.contains name }

end OperationCheck.TypeSystem
