import OperationCheck.TypeSystem.Schema

/-!
The types and directives that every schema has.
-/

namespace OperationCheck.TypeSystem

open OperationCheck.Language

/-- Each built-in scalar is defined on a line of a source of its own. -/
def builtInScalars : List (String × Nat) :=
  [("Int", 166), ("Float", 171), ("String", 176), ("Boolean", 179), ("ID", 184)]

def isBuiltInScalar (name : String) : Bool := builtInScalars.any fun scalar => scalar.1 == name

/-- The location where a built-in scalar is named. -/
def builtInLine (name : String) : Option Nat := builtInScalars.lookup name

def listOf (type : String) : TypeRef := .nonNull (.list (requiredType type))

def optionalListOf (type : String) : TypeRef := .list (requiredType type)

/-- Deprecated members are only listed when they are asked for. -/
def includeDeprecated : List InputValue :=
  [⟨0, noName "includeDeprecated", namedType "Boolean", some (.boolean 0 false), []⟩]

def objectType (name : String) (fields : List FieldDefinition) : TypeDefinition :=
  ⟨0, noName name, [], .object [] fields⟩

def enumType (name : String) (values : List String) : TypeDefinition :=
  ⟨0, noName name, [], .enum (values.map fun value => ⟨0, noName value, []⟩)⟩

def describedFields : List FieldDefinition :=
  [plainField "name" [] (requiredType "String"), plainField "description" [] (namedType "String")]

def deprecationFields : List FieldDefinition :=
  [plainField "isDeprecated" [] (requiredType "Boolean"),
    plainField "deprecationReason" [] (namedType "String")]

def schemaType : TypeDefinition := objectType "__Schema" [
  plainField "description" [] (namedType "String"),
  plainField "types" [] (listOf "__Type"),
  plainField "queryType" [] (requiredType "__Type"),
  plainField "mutationType" [] (namedType "__Type"),
  plainField "subscriptionType" [] (namedType "__Type"),
  plainField "directives" [] (listOf "__Directive")]

def typeType : TypeDefinition := objectType "__Type" [
  plainField "kind" [] (requiredType "__TypeKind"),
  plainField "name" [] (namedType "String"),
  plainField "description" [] (namedType "String"),
  plainField "fields" includeDeprecated (optionalListOf "__Field"),
  plainField "interfaces" [] (optionalListOf "__Type"),
  plainField "possibleTypes" [] (optionalListOf "__Type"),
  plainField "enumValues" includeDeprecated (optionalListOf "__EnumValue"),
  plainField "inputFields" includeDeprecated (optionalListOf "__InputValue"),
  plainField "ofType" [] (namedType "__Type"),
  plainField "specifiedByURL" [] (namedType "String")]

def fieldType : TypeDefinition := objectType "__Field" (describedFields ++
  [plainField "args" includeDeprecated (listOf "__InputValue"),
    plainField "type" [] (requiredType "__Type")] ++ deprecationFields)

def inputValueType : TypeDefinition := objectType "__InputValue" (describedFields ++
  [plainField "type" [] (requiredType "__Type"),
    plainField "defaultValue" [] (namedType "String")] ++ deprecationFields)

def enumValueType : TypeDefinition := objectType "__EnumValue" (describedFields ++ deprecationFields)

def directiveType : TypeDefinition := objectType "__Directive" (describedFields ++
  [plainField "isRepeatable" [] (requiredType "Boolean"),
    plainField "locations" [] (listOf "__DirectiveLocation"),
    plainField "args" includeDeprecated (listOf "__InputValue")])

def typeKindType : TypeDefinition := enumType "__TypeKind"
  ["SCALAR", "OBJECT", "INTERFACE", "UNION", "ENUM", "INPUT_OBJECT", "LIST", "NON_NULL"]

def directiveLocationType : TypeDefinition := enumType "__DirectiveLocation"
  ["QUERY", "MUTATION", "SUBSCRIPTION", "FIELD", "FRAGMENT_DEFINITION", "FRAGMENT_SPREAD",
    "INLINE_FRAGMENT", "VARIABLE_DEFINITION", "SCHEMA", "SCALAR", "OBJECT", "FIELD_DEFINITION",
    "ARGUMENT_DEFINITION", "INTERFACE", "UNION", "ENUM", "ENUM_VALUE", "INPUT_OBJECT",
    "INPUT_FIELD_DEFINITION"]

/-- These types describe schemas. -/
def introspectionTypes : List TypeDefinition :=
  [schemaType, typeType, typeKindType, fieldType, inputValueType, enumValueType, directiveType,
    directiveLocationType]

def scalarTypes : List TypeDefinition :=
  builtInScalars.map fun scalar => ⟨0, noName scalar.1, [], .scalar⟩

def condition : List InputValue := [⟨0, noName "if", requiredType "Boolean", none, []⟩]

def conditional (name : String) : DirectiveDefinition :=
  ⟨0, noName name, condition, false, ["FIELD", "FRAGMENT_SPREAD", "INLINE_FRAGMENT"]⟩

/-- A member may be deprecated, and a scalar may be specified by an address. -/
def builtInDirectives : List DirectiveDefinition :=
  [conditional "skip", conditional "include",
    ⟨0, noName "deprecated",
      [⟨0, noName "reason", namedType "String", some (.text 0 "No longer supported"), []⟩], false,
      ["FIELD_DEFINITION", "ARGUMENT_DEFINITION", "INPUT_FIELD_DEFINITION", "ENUM_VALUE"]⟩,
    ⟨0, noName "specifiedBy", [⟨0, noName "url", requiredType "String", none, []⟩], false,
      ["SCALAR"]⟩]

/-- A schema without anything of its own. -/
def Schema.builtIn : Schema where
  types := (introspectionTypes ++ scalarTypes).map fun type => ⟨type, true⟩
  directives := builtInDirectives.map fun directive => ⟨directive, true⟩
  place := none
  schemaDirectives := []
  roots := []

end OperationCheck.TypeSystem
