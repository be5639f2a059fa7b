import OperationCheck.Introspection.Listing
import OperationCheck.Language.Syntax

/-!
Schemas as servers describe them, and how a listing is turned into one.
-/

namespace OperationCheck.Introspection

open OperationCheck.Language

/-- Something is deprecated for a reason that may be left out. -/
structure Deprecation where
  reason : Option String
deriving Repr, DecidableEq

structure DescribedInput where
  name : String
  description : Option String
  type : TypeRef
  default : Option String
  deprecation : Option Deprecation
deriving Repr

structure DescribedField where
  name : String
  description : Option String
  arguments : List DescribedInput
  type : TypeRef
  deprecation : Option Deprecation
deriving Repr

structure DescribedValue where
  name : String
  description : Option String
  deprecation : Option Deprecation
deriving Repr

inductive DescribedBody where
  | scalar
  | object (interfaces : List String) (fields : List DescribedField)
  | interface (interfaces : List String) (fields : List DescribedField)
  | union (members : List String)
  | enum (values : List DescribedValue)
  | inputObject (isOneOf : Bool) (fields : List DescribedInput)
deriving Repr

structure DescribedType where
  name : String
  description : Option String
  body : DescribedBody
deriving Repr

structure DescribedDirective where
  name : String
  description : Option String
  arguments : List DescribedInput
  isRepeatable : Bool
  locations : List String
deriving Repr

structure DescribedSchema where
  query : String
  mutation : Option String
  subscription : Option String
  types : List DescribedType
  directives : List DescribedDirective
deriving Repr

/-- A listing can be well-formed and still not describe a schema. -/
inductive ListingError where
  | missingName
  | unexpectedList
  | unexpectedNonNull
  | nothingWrapped
  | tooMuchWrapping
deriving Repr, DecidableEq

def nameOf : Option String → Except ListingError String
  | some name => .ok name
  | none => .error .missingName

/-- A type has fewer wrappers than this. -/
def wrappingLimit : Nat := 8

/-- This function follows a reference to the type at its core. -/
def typeOf : Nat → ListedRef → Except ListingError TypeRef
  | 0, _ => .error .tooMuchWrapping
  | room + 1, .mk kind name inner =>
      match kind, inner with
      | .list, some inner => (typeOf room inner).map .list
      | .nonNull, some inner => (typeOf room inner).map .nonNull
      | .list, none | .nonNull, none => .error .nothingWrapped
      | _, _ => (nameOf name).map fun name => .named ⟨name, 0⟩

/-- A reason counts only for what is deprecated. -/
def deprecationOf (isDeprecated : Bool) (reason : Option String) : Option Deprecation :=
  if isDeprecated then some ⟨reason⟩ else none

def inputOf (listed : ListedInput) : Except ListingError DescribedInput :=
  (typeOf wrappingLimit listed.type).map fun type =>
    ⟨listed.name, listed.description, type, listed.default,
      deprecationOf listed.isDeprecated listed.deprecationReason⟩

def fieldOf (listed : ListedField) : Except ListingError DescribedField := do
  let arguments ← listed.arguments.mapM inputOf
  let type ← typeOf wrappingLimit listed.type
  return ⟨listed.name, listed.description, arguments, type,
    deprecationOf listed.isDeprecated listed.deprecationReason⟩

def valueOf (listed : ListedValue) : DescribedValue :=
  ⟨listed.name, listed.description, deprecationOf listed.isDeprecated listed.deprecationReason⟩

/-- What is not listed is empty. -/
def bodyOf (listed : ListedType) : Except ListingError DescribedBody := do
  match listed.kind with
  | .scalar => return .scalar
  | .object =>
      let fields ← (listed.fields.getD []).mapM fieldOf
      let interfaces ← (listed.interfaces.getD []).mapM nameOf
      return .object interfaces fields
  | .interface =>
      let fields ← (listed.fields.getD []).mapM fieldOf
      let _ ← (listed.possibleTypes.getD []).mapM nameOf
      let interfaces ← (listed.interfaces.getD []).mapM nameOf
      return .interface interfaces fields
  | .union => return .union (← (listed.possibleTypes.getD []).mapM nameOf)
  | .enum => return .enum ((listed.values.getD []).map valueOf)
  | .inputObject =>
      let fields ← (listed.inputs.getD []).mapM inputOf
      return .inputObject (listed.isOneOf.getD false) fields
  | .list => .error .unexpectedList
  | .nonNull => .error .unexpectedNonNull

/-- The list of types has no wrappers in it. -/
def describedType (listed : ListedType) : Except ListingError DescribedType :=
  match listed.kind with
  | .list => .error .unexpectedList
  | .nonNull => .error .unexpectedNonNull
  | _ => do
      let name ← nameOf listed.name
      return ⟨name, listed.description, ← bodyOf listed⟩

def describedDirective (listed : ListedDirective) : Except ListingError DescribedDirective :=
  (listed.arguments.mapM inputOf).map fun arguments =>
    ⟨listed.name, listed.description, arguments, listed.isRepeatable, listed.locations⟩

/-- This function turns a listing into a schema. -/
def DescribedSchema.ofListing (listing : Listing) : Except ListingError DescribedSchema := do
  let query ← nameOf listing.query
  let mutation ← listing.mutation.mapM nameOf
  let subscription ← listing.subscription.mapM nameOf
  let types ← listing.types.mapM describedType
  let directives ← listing.directives.mapM describedDirective
  return ⟨query, mutation, subscription, types, directives⟩

end OperationCheck.Introspection
