import OperationCheck.Language.Syntax

/-!
Schemas: types and directives by name, the types of the operations, and what can be asked of them.
-/

namespace OperationCheck.TypeSystem

open OperationCheck.Language

/-- A type is built in or comes from the source of a schema. -/
structure KnownType where
  definition : TypeDefinition
  isBuiltIn : Bool
deriving Repr

structure KnownDirective where
  definition : DirectiveDefinition
  isBuiltIn : Bool
deriving Repr

/-- Types and directives are in the order in which they were defined. The place is that of the
schema definition, if there is one. -/
structure Schema where
  types : List KnownType
  directives : List KnownDirective
  place : Option Nat
  schemaDirectives : List Directive
  roots : List RootType
deriving Repr

def Schema.known? (schema : Schema) (name : String) : Option KnownType :=
  schema.types.find? fun known => known.definition.name.text == name

def Schema.type? (schema : Schema) (name : String) : Option TypeDefinition :=
  (schema.known? name).map KnownType.definition

def Schema.body? (schema : Schema) (name : String) : Option TypeBody :=
  (schema.type? name).map TypeDefinition.body

def Schema.directive? (schema : Schema) (name : String) : Option DirectiveDefinition :=
  (schema.directives.find? fun known => known.definition.name.text == name).map
    KnownDirective.definition

/-- The type of the operations of one kind. -/
def Schema.root? (schema : Schema) (kind : OperationKind) : Option String :=
  (schema.roots.find? fun root => root.kind == kind).map fun root => root.type.text

/-- Values of these types may be given to arguments. -/
def isInput : TypeBody → Bool
  | .scalar | .enum _ | .inputObject _ => true
  | _ => false

/-- Values of these types may be answers. -/
def isOutput : TypeBody → Bool
  | .inputObject _ => false
  | _ => true

/-- Fields and fragments are selected from these types. -/
def isComposite : TypeBody → Bool
  | .object _ _ | .interface _ _ | .union _ => true
  | _ => false

def fieldsOf : TypeBody → List FieldDefinition
  | .object _ fields | .interface _ fields => fields
  | _ => []

def interfacesOf : TypeBody → List Name
  | .object interfaces _ | .interface interfaces _ => interfaces
  | _ => []

def noName (text : String) : Name := ⟨text, 0⟩

def namedType (text : String) : TypeRef := .named (noName text)

def requiredType (text : String) : TypeRef := .nonNull (namedType text)

def plainField (name : String) (arguments : List InputValue) (type : TypeRef) : FieldDefinition :=
  ⟨0, noName name, arguments, type, []⟩

/-- Every composite type has a field for the name of the type. -/
def typenameField : FieldDefinition := plainField "__typename" [] (requiredType "String")

/-- The root of queries has fields for the schema itself. -/
def schemaFields : List FieldDefinition :=
  [plainField "__schema" [] (requiredType "__Schema"),
    plainField "__type" [⟨0, noName "name", requiredType "String", none, []⟩] (namedType "__Type")]

def findField (fields : List FieldDefinition) (name : String) : Option FieldDefinition :=
  fields.find? fun field => field.name.text == name

/-- The fields that can be selected from a type are those that it defines, the name of the type,
and for queries the fields for the schema. -/
def Schema.field? (schema : Schema) (type name : String) : Option FieldDefinition :=
  (schema.body? type).bind fun body =>
    (findField (fieldsOf body) name).or <|
      if name = "__typename" ∧ isComposite body then some typenameField
      else if schema.root? .query = some type then findField schemaFields name
      else none

/-- These are the object types that a value of a composite type may have. -/
def Schema.possibleTypes (schema : Schema) (type : String) : List String :=
  match schema.body? type with
  | some (.object _ _) => [type]
  | some (.union members) => members.map Name.text
  | some (.interface _ _) =>
      (schema.types.filter fun known =>
        (interfacesOf known.definition.body).any fun name => name.text == type).map
          fun known => known.definition.name.text
  | _ => []

/-- A value of the first type can be used where the second one is expected. -/
def isAssignable : TypeRef → TypeRef → Bool
  | .nonNull inner, .nonNull expected => isAssignable inner expected
  | .nonNull inner, expected => isAssignable inner expected
  | .list item, .list expected => isAssignable item expected
  | .named name, .named expected => name.text == expected.text
  | _, _ => false

/-- A type is a subtype of itself, of its interfaces, and of the unions it belongs to. -/
def Schema.isSubtype (schema : Schema) (name parent : String) : Bool :=
  name == parent ||
    match schema.body? parent with
    | some (.union members) => members.any fun member => member.text == name
    | some (.interface _ _) =>
        match schema.body? name with
        | some body => (interfacesOf body).any fun interface => interface.text == parent
        | none => false
    | _ => false

/-- The type of a field may be narrower than that of the field of an interface. -/
def Schema.isNarrower (schema : Schema) : TypeRef → TypeRef → Bool
  | .nonNull inner, .nonNull expected => schema.isNarrower inner expected
  | .nonNull inner, expected => schema.isNarrower inner expected
  | .list item, .list expected => schema.isNarrower item expected
  | .named name, .named expected => schema.isSubtype name.text expected.text
  | _, _ => false

/-- Two types are the same when they are written the same. -/
def sameType (first second : TypeRef) : Bool := first.text == second.text

/-- The names of the types that a source defines, in order. -/
def Schema.typeNames (schema : Schema) : List String :=
  ((schema.types.filter fun known => !known.isBuiltIn).map
    fun known => known.definition.name.text).mergeSort (· ≤ ·)

def Schema.directiveNames (schema : Schema) : List String :=
  ((schema.directives.filter fun known => !known.isBuiltIn).map
    fun known => known.definition.name.text).mergeSort (· ≤ ·)

end OperationCheck.TypeSystem
