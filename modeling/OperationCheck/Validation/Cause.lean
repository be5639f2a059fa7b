import OperationCheck.Language.Fault
import OperationCheck.Language.Syntax

/-!
The causes of findings in schemas and in documents, and the words that they are told in.
-/

namespace OperationCheck.Validation

open OperationCheck.Language

/-- A field, or the argument of a field or a directive, with what it belongs to. -/
inductive Coordinate where
  | field (type field : String)
  | argument (type field argument : String)
  | directive (directive : String)
  | directiveArgument (directive argument : String)
deriving Repr, DecidableEq

def Coordinate.text : Coordinate → String
  | .field owner member => owner ++ "." ++ member
  | .argument owner member name => owner ++ "." ++ member ++ "(" ++ name ++ ":)"
  | .directive owner => "@" ++ owner
  | .directiveArgument owner name => "@" ++ owner ++ "(" ++ name ++ ":)"

/-- A coordinate for an argument of the thing at a coordinate. -/
def Coordinate.withArgument : Coordinate → String → Coordinate
  | .field owner member, name => .argument owner member name
  | .directive owner, name => .directiveArgument owner name
  | other, _ => other

inductive Cause where
  | badSyntax (fault : SyntaxFault)
  /- Definitions of a schema -/
  | executableDefinition (description : String)
  | secondSchema
  | directiveDefinedTwice (name : String)
  | typeDefinedTwice (name : String) (builtInLine : Option Nat)
  | builtInScalarDefined
  | orphanSchemaExtension
  | orphanTypeExtension (name : String)
  | extensionMismatch (extension name type : String)
  | rootDefinedTwice (kind : OperationKind)
  | interfaceListedTwice (owner type interface : String)
  | fieldDefinedTwice (owner type field : String)
  | enumValueDefinedTwice (type value : String)
  | memberListedTwice (type member : String)
  | argumentDefinedTwice (name : String)
  | missingQuery
  | sharedRoot (name : String)
  | rootNotObject (name : String)
  | unknownType (name : String)
  | reservedName (description name : String)
  | noFields (type : String)
  | noEnumValues (type : String)
  | noInputs (type : String)
  | noMembers (type : String)
  | notOutput (name : String)
  | notInput (name : String)
  | memberNotObject (name : String)
  | cyclicInput (name : String)
  | cyclicDirective (name : String)
  | cyclicInterface (name : String)
  | tooNested (name : String)
  | missingInterface (type via missing : String)
  | missingField (type interface field : String)
  | fieldTypeMismatch (interface type field expected found : String)
  | missingArgument (interface type field argument : String)
  | argumentTypeMismatch (interface type field argument expected found : String)
  | extraRequiredArgument (interface type field argument : String)
  /- Directives and values -/
  | unknownDirective (name : String)
  | misplacedDirective (name location : String)
  | repeatedDirective (name : String)
  | unknownArgument (name : String) (owner : Coordinate)
  | argumentGivenTwice (name : String)
  | requiredArgument (argument : Coordinate)
  | wrongValue (type found : String)
  | integerTooLarge
  | floatTooLarge
  | unknownEnumValue (value type : String)
  | unknownInputField (field type : String)
  | requiredInputField (field : Coordinate)
  | undefinedVariable (name : String)
  | variableMismatch (held heldType argument argumentType : String)
  /- Documents -/
  | typeSystemDefinition (description : String)
  | ambiguousOperation
  | operationDefinedTwice (name : String)
  | fragmentDefinedTwice (name : String)
  | undefinedRoot (kind : OperationKind)
  | unknownFragmentType (type fragment : String)
  | unknownInlineType (type : String)
  | undefinedField (type field : String)
  | selectionOnLeaf (kind type : String)
  | missingSelection
  | variableDefinedTwice (name : String)
  | variableNotInput (name : String)
  | unusedVariable (name : String)
  | undefinedFragment (name : String)
  | cyclicFragment (name : String)
  | unusedFragment (name : String)
  | fragmentOnLeaf (name : Option String)
  | impossibleFragment (name : Option String) (condition type : String)
  | manySubscriptionFields (name : Option String)
  | subscriptionIntrospection (name : Option String)
  | subscriptionCondition (name : Option String)
  | differentTypes (name : String)
  | differentFields (name : String)
  | differentArguments (name : String)
  | tooRecursive
deriving Repr, DecidableEq

def tick (text : String) : String := "\x60" ++ text ++ "\x60"

def kindName : OperationKind → String
  | .query => "query"
  | .mutation => "mutation"
  | .subscription => "subscription"

def fragmentTitle : Option String → String
  | some name => "fragment " ++ tick name
  | none => "inline fragment"

def subscriptionTitle : Option String → String
  | some name => "subscription " ++ tick name
  | none => "anonymous subscription"

def definedTwice (what : String) : String := what ++ " is defined multiple times in the "

def Cause.message : Cause → String
  | .badSyntax fault => fault.message
  | .executableDefinition description => "a schema document must not contain " ++ description
  | .secondSchema => "must not have multiple " ++ tick "schema" ++ " definitions"
  | .directiveDefinedTwice name => definedTwice ("the directive " ++ tick ("@" ++ name)) ++ "schema"
  | .typeDefinedTwice name _ => definedTwice ("the type " ++ tick name) ++ "schema"
  | .builtInScalarDefined => "built-in scalar definitions must be omitted"
  | .orphanSchemaExtension => "schema extension without a schema definition"
  | .orphanTypeExtension name => "type extension for undefined type " ++ tick name
  | .extensionMismatch description name type =>
      "adding " ++ description ++ ", but " ++ tick name ++ " is " ++ type
  | .rootDefinedTwice kind =>
      "duplicate definitions for the " ++ tick (kindName kind) ++ " root operation type"
  | .interfaceListedTwice owner type interface =>
      owner ++ " " ++ tick type ++ " implements interface " ++ tick interface ++ " more than once"
  | .fieldDefinedTwice owner type field =>
      "duplicate definitions for the " ++ tick field ++ " field of " ++ owner ++ " " ++ tick type
  | .enumValueDefinedTwice type value =>
      "duplicate definitions for the " ++ tick value ++ " value of enum type " ++ tick type
  | .memberListedTwice type member =>
      "duplicate definitions for the " ++ tick member ++ " member of union type " ++ tick type
  | .argumentDefinedTwice name => "the argument " ++ tick name ++ " is defined multiple times"
  | .missingQuery => "missing query root operation type in schema definition"
  | .sharedRoot name =>
      "the same type " ++ tick name ++ " must not be used for multiple root operation types"
  | .rootNotObject name => tick name ++ " field must return an object type"
  | .unknownType name => "cannot find type " ++ tick name ++ " in this document"
  | .reservedName description name =>
      description ++ " cannot be named " ++ tick name
        ++ " as names starting with two underscores are reserved"
  | .noFields type => tick type ++ " has no fields"
  | .noEnumValues type => tick type ++ " has no enum values"
  | .noInputs type => tick type ++ " has no input values"
  | .noMembers type => tick type ++ " has no member types"
  | .notOutput name => tick name ++ " field must return an output type"
  | .notInput name => tick name ++ " field must be of an input type"
  | .memberNotObject name => "union member " ++ tick name ++ " must be an object type"
  | .cyclicInput name => tick name ++ " input object cannot reference itself"
  | .cyclicDirective name => tick name ++ " directive definition cannot reference itself"
  | .cyclicInterface name => "interface " ++ name ++ " cannot implement itself"
  | .tooNested name => tick name ++ " contains too much nesting"
  | .missingInterface type via missing =>
      "interface " ++ tick type ++ " declares that it implements " ++ tick via
        ++ ", but to do so it must also implement " ++ tick missing
  | .missingField type interface field =>
      "type " ++ tick type ++ " does not satisfy interface " ++ tick interface
        ++ ": missing field " ++ tick field
  | .fieldTypeMismatch interface type field expected found =>
      "interface field " ++ tick (interface ++ "." ++ field) ++ " expects type " ++ tick expected
        ++ " but " ++ tick (type ++ "." ++ field) ++ " of type " ++ tick found
        ++ " is not a proper subtype"
  | .missingArgument interface type field argument =>
      "interface field " ++ tick (interface ++ "." ++ field) ++ " expects argument "
        ++ tick argument ++ " but " ++ tick (type ++ "." ++ field) ++ " does not provide it"
  | .argumentTypeMismatch interface type field argument expected found =>
      "interface field " ++ tick (interface ++ "." ++ field) ++ " expects argument "
        ++ tick argument ++ " of type " ++ tick expected ++ " but " ++ tick (type ++ "." ++ field)
        ++ " provides type " ++ tick found
  | .extraRequiredArgument interface type field argument =>
      "field " ++ tick (type ++ "." ++ field) ++ " requires argument " ++ tick argument
        ++ " that is not required by interface field " ++ tick (interface ++ "." ++ field)
  | .unknownDirective name => "cannot find directive " ++ tick ("@" ++ name) ++ " in this document"
  | .misplacedDirective name location =>
      name ++ " directive is not supported for " ++ location ++ " location"
  | .repeatedDirective name =>
      "non-repeatable directive " ++ name ++ " can only be used once per location"
  | .unknownArgument name owner =>
      "the argument " ++ tick name ++ " is not supported by " ++ tick owner.text
  | .argumentGivenTwice name => "the argument " ++ tick name ++ " is provided multiple times"
  | .requiredArgument argument =>
      "the required argument " ++ tick argument.text ++ " is not provided"
  | .wrongValue type found => "expected value of type " ++ type ++ ", found " ++ found
  | .integerTooLarge => "int cannot represent non 32-bit signed integer value"
  | .floatTooLarge => "float cannot represent non-finite 64-bit floating point value"
  | .unknownEnumValue value type => "value " ++ tick value ++ " does not exist on " ++ tick type
  | .unknownInputField field type => "field " ++ tick field ++ " does not exist on " ++ tick type
  | .requiredInputField field => "the required field " ++ tick field.text ++ " is not provided"
  | .undefinedVariable name => "variable " ++ tick ("$" ++ name) ++ " is not defined"
  | .variableMismatch held heldType argument argumentType =>
      "variable " ++ tick ("$" ++ held) ++ " of type " ++ tick heldType
        ++ " cannot be used for argument " ++ tick argument ++ " of type " ++ tick argumentType
  | .typeSystemDefinition description => "an executable document must not contain " ++ description
  | .ambiguousOperation =>
      "anonymous operation cannot be selected when the document contains other operations"
  | .operationDefinedTwice name => definedTwice ("the operation " ++ tick name) ++ "document"
  | .fragmentDefinedTwice name => definedTwice ("the fragment " ++ tick name) ++ "document"
  | .undefinedRoot kind => tick (kindName kind) ++ " root operation type is not defined"
  | .unknownFragmentType type fragment =>
      "type condition " ++ tick type ++ " of fragment " ++ tick fragment
        ++ " is not a type defined in the schema"
  | .unknownInlineType type =>
      "type condition " ++ tick type
        ++ " of inline fragment is not a type defined in the schema"
  | .undefinedField type field => "type " ++ tick type ++ " does not have a field " ++ tick field
  | .selectionOnLeaf kind type =>
      "field selection of " ++ kind ++ " type " ++ tick type ++ " must not have subselections"
  | .missingSelection => "interface, union and object types must have a subselection set"
  | .variableDefinedTwice name =>
      "the variable " ++ tick ("$" ++ name) ++ " is declared multiple times"
  | .variableNotInput name => tick ("$" ++ name) ++ " variable must be of an input type"
  | .unusedVariable name => "unused variable: " ++ tick ("$" ++ name)
  | .undefinedFragment name => "cannot find fragment " ++ tick name ++ " in this document"
  | .cyclicFragment name => tick name ++ " fragment cannot reference itself"
  | .unusedFragment name => "fragment " ++ tick name ++ " must be used in an operation"
  | .fragmentOnLeaf name =>
      fragmentTitle name ++ " must have a composite type in its type condition"
  | .impossibleFragment name condition type =>
      fragmentTitle name ++ " with type condition " ++ tick condition
        ++ " cannot be applied to " ++ tick type
  | .manySubscriptionFields name => subscriptionTitle name ++ " can only have one root field"
  | .subscriptionIntrospection name =>
      subscriptionTitle name ++ " can not have an introspection field as a root field"
  | .subscriptionCondition name =>
      subscriptionTitle name ++ " can not specify @skip or @include on root fields"
  | .differentTypes name =>
      "operation must not select different types using the same name " ++ tick name
  | .differentFields name => "cannot select different fields into the same alias " ++ tick name
  | .differentArguments name =>
      "operation must not provide conflicting field arguments for the same name " ++ tick name
  | .tooRecursive => "too much recursion"

end OperationCheck.Validation
