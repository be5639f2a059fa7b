import OperationCheck.Json.Value

/-!
What a server lists about its schema, as it was asked for. A member that was asked for must be
there, though many of them may be null.
-/

namespace OperationCheck.Introspection

open OperationCheck.Json

inductive TypeKind where
  | scalar
  | object
  | interface
  | union
  | enum
  | inputObject
  | list
  | nonNull
deriving Repr, DecidableEq

def TypeKind.ofName? : String → Option TypeKind
  | "SCALAR" => some .scalar
  | "OBJECT" => some .object
  | "INTERFACE" => some .interface
  | "UNION" => some .union
  | "ENUM" => some .enum
  | "INPUT_OBJECT" => some .inputObject
  | "LIST" => some .list
  | "NON_NULL" => some .nonNull
  | _ => none

/-- A reference to a type has a name or wraps another reference. -/
inductive ListedRef where
  | mk (kind : TypeKind) (name : Option String) (inner : Option ListedRef)
deriving Repr

structure ListedInput where
  name : String
  description : Option String
  type : ListedRef
  default : Option String
  isDeprecated : Bool
  deprecationReason : Option String
deriving Repr

structure ListedField where
  name : String
  description : Option String
  arguments : List ListedInput
  type : ListedRef
  isDeprecated : Bool
  deprecationReason : Option String
deriving Repr

structure ListedValue where
  name : String
  description : Option String
  isDeprecated : Bool
  deprecationReason : Option String
deriving Repr

/-- Interfaces and members of unions are listed by their names. -/
structure ListedType where
  kind : TypeKind
  name : Option String
  description : Option String
  fields : Option (List ListedField)
  inputs : Option (List ListedInput)
  interfaces : Option (List (Option String))
  values : Option (List ListedValue)
  possibleTypes : Option (List (Option String))
  isOneOf : Option Bool
deriving Repr

structure ListedDirective where
  name : String
  description : Option String
  arguments : List ListedInput
  locations : List String
  isRepeatable : Bool
deriving Repr

structure Listing where
  query : Option String
  mutation : Option (Option String)
  subscription : Option (Option String)
  types : List ListedType
  directives : List ListedDirective
deriving Repr

/-- A decoder gives nothing for a value of another form. -/
abbrev Decoder (α : Type) := Value → Option α

def nullable {α : Type} (decode : Decoder α) : Decoder (Option α)
  | .null => some none
  | value => (decode value).map some

def listOf {α : Type} (decode : Decoder α) : Decoder (List α)
  | .list items => items.mapM decode
  | _ => none

/-- A member that must be there. -/
def required {α : Type} (name : String) (decode : Decoder α) : Decoder α := fun value =>
  (value.member? name).bind decode

/-- A member that may be left out. -/
def optional {α : Type} (name : String) (decode : Decoder α) (default : α) : Decoder α :=
  fun value =>
    match value.member? name with
    | some held => decode held
    | none => some default

def decodeKind : Decoder TypeKind := fun value => value.text?.bind TypeKind.ofName?

def requiredText (name : String) : Decoder String := required name Value.text?

def nullableText (name : String) : Decoder (Option String) := required name (nullable Value.text?)

def optionalText (name : String) : Decoder (Option String) :=
  optional name (nullable Value.text?) none

def optionalFlag (name : String) : Decoder Bool := optional name Value.boolean? false

/-- Only a certain number of inner references are asked for, so that the last one does not say what
it wraps. -/
def decodeRef : Value → Option ListedRef
  | .object members => do
      let value := Value.object members
      let kind ← required "kind" decodeKind value
      let name ← nullableText "name" value
      match decodeInner members with
      | some inner => some (.mk kind name inner)
      | none => none
  | _ => none
where
  decodeInner : List (String × Value) → Option (Option ListedRef)
    | [] => some none
    | (name, value) :: rest =>
        if rest.any fun member => member.1 == "ofType" then decodeInner rest
        else if name = "ofType" then
          match value with
          | .null => some none
          | value => (decodeRef value).map some
        else decodeInner rest

def decodeInput : Decoder ListedInput := fun value => do
  some {
    name := ← requiredText "name" value
    description := ← nullableText "description" value
    type := ← required "type" decodeRef value
    default := ← nullableText "defaultValue" value
    isDeprecated := ← optionalFlag "isDeprecated" value
    deprecationReason := ← optionalText "deprecationReason" value }

def decodeField : Decoder ListedField := fun value => do
  some {
    name := ← requiredText "name" value
    description := ← nullableText "description" value
    arguments := ← required "args" (listOf decodeInput) value
    type := ← required "type" decodeRef value
    isDeprecated := ← required "isDeprecated" Value.boolean? value
    deprecationReason := ← nullableText "deprecationReason" value }

def decodeEnumValue : Decoder ListedValue := fun value => do
  some {
    name := ← requiredText "name" value
    description := ← nullableText "description" value
    isDeprecated := ← required "isDeprecated" Value.boolean? value
    deprecationReason := ← nullableText "deprecationReason" value }

def decodeNamed : Decoder (Option String) := nullableText "name"

def nullableList {α : Type} (name : String) (decode : Decoder α) : Decoder (Option (List α)) :=
  required name (nullable (listOf decode))

def decodeType : Decoder ListedType := fun value => do
  let _ ← optionalText "specifiedByURL" value
  some {
    kind := ← required "kind" decodeKind value
    name := ← nullableText "name" value
    description := ← nullableText "description" value
    fields := ← nullableList "fields" decodeField value
    inputs := ← nullableList "inputFields" decodeInput value
    interfaces := ← nullableList "interfaces" decodeNamed value
    values := ← nullableList "enumValues" decodeEnumValue value
    possibleTypes := ← nullableList "possibleTypes" decodeNamed value
    isOneOf := ← optional "isOneOf" (nullable Value.boolean?) none value }

/-- The locations where directives can stand. -/
def directiveLocations : List String :=
  ["QUERY", "MUTATION", "SUBSCRIPTION", "FIELD", "FRAGMENT_DEFINITION", "FRAGMENT_SPREAD",
    "INLINE_FRAGMENT", "VARIABLE_DEFINITION", "SCHEMA", "SCALAR", "OBJECT", "FIELD_DEFINITION",
    "ARGUMENT_DEFINITION", "INTERFACE", "UNION", "ENUM", "ENUM_VALUE", "INPUT_OBJECT",
    "INPUT_FIELD_DEFINITION"]

def decodeLocation : Decoder String := fun value =>
  value.text?.bind fun name => if directiveLocations.contains name then some name else none

def decodeDirective : Decoder ListedDirective := fun value => do
  some {
    name := ← requiredText "name" value
    description := ← nullableText "description" value
    arguments := ← required "args" (listOf decodeInput) value
    locations := ← required "locations" (listOf decodeLocation) value
    isRepeatable := ← optionalFlag "isRepeatable" value }

/-- This function decodes the listing of a schema. -/
def Listing.decode : Decoder Listing := fun value => do
  some {
    query := ← required "queryType" decodeNamed value
    mutation := ← required "mutationType" (nullable decodeNamed) value
    subscription := ← required "subscriptionType" (nullable decodeNamed) value
    types := ← required "types" (listOf decodeType) value
    directives := ← required "directives" (listOf decodeDirective) value }

end OperationCheck.Introspection
