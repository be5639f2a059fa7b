/-!
The syntax of operations and type systems. Each part knows its place, which is the number of bytes
before it.
-/

namespace OperationCheck.Language

/-- A name has a place of its own. -/
structure Name where
  text : String
  place : Nat
deriving Repr

/-- The items of a list type come in one inner type. Only the named type at its core has a name. -/
inductive TypeRef where
  | named (name : Name)
  | list (item : TypeRef)
  | nonNull (inner : TypeRef)
deriving Repr

inductive Value where
  | variable (place : Nat) (name : String)
  | int (place : Nat) (digits : String)
  | float (place : Nat) (digits : String)
  | text (place : Nat) (content : String)
  | boolean (place : Nat) (value : Bool)
  | null (place : Nat)
  | choice (place : Nat) (name : String)
  | list (place : Nat) (items : List Value)
  | object (place : Nat) (fields : List (String × Value))
deriving Repr

structure Argument where
  name : Name
  value : Value
deriving Repr

/-- A directive begins at its mark. -/
structure Directive where
  place : Nat
  name : Name
  arguments : List Argument
deriving Repr

/-- A selection is a field, the spread of a fragment, or a fragment in its place. -/
inductive Selection where
  | field (place : Nat) (aliasName : Option String) (name : Name) (arguments : List Argument)
      (directives : List Directive) (selections : List Selection)
  | spread (place : Nat) (name : Name) (directives : List Directive)
  | inline (place : Nat) (condition : Option Name) (directives : List Directive)
      (selections : List Selection)
deriving Repr

inductive OperationKind where
  | query
  | mutation
  | subscription
deriving Repr, DecidableEq

structure VariableDefinition where
  place : Nat
  name : String
  type : TypeRef
  default : Option Value
  directives : List Directive
deriving Repr

structure Operation where
  place : Nat
  kind : OperationKind
  name : Option Name
  definedVariables : List VariableDefinition
  directives : List Directive
  selections : List Selection
deriving Repr

structure Fragment where
  place : Nat
  name : Name
  condition : Name
  directives : List Directive
  selections : List Selection
deriving Repr

/-- An argument of a field or a directive, or a field of an input object. -/
structure InputValue where
  place : Nat
  name : Name
  type : TypeRef
  default : Option Value
  directives : List Directive
deriving Repr

structure FieldDefinition where
  place : Nat
  name : Name
  arguments : List InputValue
  type : TypeRef
  directives : List Directive
deriving Repr

structure EnumValue where
  place : Nat
  name : Name
  directives : List Directive
deriving Repr

/-- The body of a type holds what its kind has. -/
inductive TypeBody where
  | scalar
  | object (interfaces : List Name) (fields : List FieldDefinition)
  | interface (interfaces : List Name) (fields : List FieldDefinition)
  | union (members : List Name)
  | enum (values : List EnumValue)
  | inputObject (fields : List InputValue)
deriving Repr

/-- A type definition. An extension of a type has the same parts. -/
structure TypeDefinition where
  place : Nat
  name : Name
  directives : List Directive
  body : TypeBody
deriving Repr

structure RootType where
  place : Nat
  kind : OperationKind
  type : Name
deriving Repr

/-- A schema definition names the types of its operations. An extension has the same parts. -/
structure SchemaDefinition where
  place : Nat
  directives : List Directive
  roots : List RootType
deriving Repr

structure DirectiveDefinition where
  place : Nat
  name : Name
  arguments : List InputValue
  repeatable : Bool
  locations : List String
deriving Repr

inductive Definition where
  | operation (operation : Operation)
  | fragment (fragment : Fragment)
  | schema (isExtension : Bool) (definition : SchemaDefinition)
  | type (isExtension : Bool) (definition : TypeDefinition)
  | directive (definition : DirectiveDefinition)
deriving Repr

/-- The core of a type is the named type within all lists. -/
def TypeRef.core : TypeRef → Name
  | .named name => name
  | .list item => item.core
  | .nonNull inner => inner.core

def TypeRef.text : TypeRef → String
  | .named name => name.text
  | .list item => "[" ++ item.text ++ "]"
  | .nonNull inner => inner.text ++ "!"

def TypeRef.isNonNull : TypeRef → Bool
  | .nonNull _ => true
  | _ => false

/-- The type without its mark against null. -/
def TypeRef.nullable : TypeRef → TypeRef
  | .nonNull inner => inner
  | type => type

def Value.place : Value → Nat
  | .variable place _ | .int place _ | .float place _ | .text place _ | .boolean place _
  | .null place | .choice place _ | .list place _ | .object place _ => place

def Value.isNull : Value → Bool
  | .null _ => true
  | _ => false

/-- A required value must be given, because its type has no null and it has no default. -/
def InputValue.isRequired (input : InputValue) : Bool :=
  input.type.isNonNull && input.default.isNone

def Selection.directives : Selection → List Directive
  | .field _ _ _ _ directives _ | .spread _ _ directives | .inline _ _ directives _ => directives

def Definition.place : Definition → Nat
  | .operation defined => defined.place
  | .fragment defined => defined.place
  | .schema _ defined => defined.place
  | .type _ defined => defined.place
  | .directive defined => defined.place

/-- The kind of a type with its article. -/
def TypeBody.description : TypeBody → String
  | .scalar => "a scalar type"
  | .object _ _ => "an object type"
  | .interface _ _ => "an interface type"
  | .union _ => "a union type"
  | .enum _ => "an enum type"
  | .inputObject _ => "an input object type"

/-- The form of a definition with its article. -/
def Definition.description : Definition → String
  | .operation _ => "an operation definition"
  | .fragment _ => "a fragment definition"
  | .schema isExtension _ => if isExtension then "a schema extension" else "a schema definition"
  | .type isExtension defined =>
      defined.body.description ++ if isExtension then " extension" else " definition"
  | .directive _ => "a directive definition"

end OperationCheck.Language
