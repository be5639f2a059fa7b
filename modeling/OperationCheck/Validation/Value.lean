import OperationCheck.TypeSystem.BuiltIn
import OperationCheck.Validation.Finding
import OperationCheck.Text.Number

/-!
Checking values against the types that are expected of them.
-/

namespace OperationCheck.Validation

open OperationCheck.Language OperationCheck.TypeSystem OperationCheck.Text

/-- The form of a value with its article. -/
def describeValue : Value → String
  | .variable _ _ => "a variable"
  | .int _ _ => "an integer"
  | .float _ _ => "a float"
  | .text _ _ => "a string"
  | .boolean _ _ => "a boolean"
  | .null _ => "null"
  | .choice _ _ => "an enum"
  | .list _ _ => "a list"
  | .object _ _ => "an input object"

/-- A type that an input may have is a built-in scalar, any other scalar, an enum, or an input
object. -/
inductive InputForm where
  | builtIn (name : String)
  | custom
  | choice (values : List EnumValue)
  | object (fields : List InputValue)
  | none

def inputForm (name : String) : TypeBody → InputForm
  | .scalar => if isBuiltInScalar name then .builtIn name else .custom
  | .enum values => .choice values
  | .inputObject fields => .object fields
  | _ => .none

def wrongValue (type : TypeRef) (value : Value) : Finding :=
  found value.place (.wrongValue type.text (describeValue value))

/-- An integer can be given for an identifier and for both kinds of numbers. -/
def checkInt (form : InputForm) (place : Nat) (digits : String) (wrong : Finding) :
    List Finding :=
  match form with
  | .custom | .builtIn "ID" => []
  | .builtIn "Int" => demand (isSmallInteger digits) (found place .integerTooLarge)
  | .builtIn "Float" => demand (isFiniteNumber digits) (found place .floatTooLarge)
  | _ => [wrong]

def checkFloat (form : InputForm) (place : Nat) (digits : String) (wrong : Finding) :
    List Finding :=
  match form with
  | .custom => []
  | .builtIn "Float" => demand (isFiniteNumber digits) (found place .floatTooLarge)
  | _ => [wrong]

def checkText (form : InputForm) (wrong : Finding) : List Finding :=
  match form with
  | .custom | .builtIn "String" | .builtIn "ID" => []
  | _ => [wrong]

def checkBoolean (form : InputForm) (wrong : Finding) : List Finding :=
  match form with
  | .custom | .builtIn "Boolean" => []
  | _ => [wrong]

/-- A name must be one of the values of the enum. -/
def checkChoice (form : InputForm) (type : String) (place : Nat) (name : String)
    (wrong : Finding) : List Finding :=
  match form with
  | .custom => []
  | .choice values =>
      demand (values.any fun value => value.name.text == name)
        (found place (.unknownEnumValue name type))
  | _ => [wrong]

/-- Of a variable within a value, only the core of its type is compared. -/
def checkVariable (form : InputForm) (defined : List VariableDefinition) (type : String)
    (place : Nat) (name : String) (wrong : Finding) : List Finding :=
  match form with
  | .none => [wrong]
  | _ =>
      match defined.find? fun known => known.name == name with
      | none => [found place (.undefinedVariable name)]
      | some known => demand (known.type.core.text == type) wrong

/-- A single value can be given for a list. -/
def isListType : TypeRef → Bool
  | .list _ => true
  | .nonNull inner => isListType inner
  | .named _ => false

/-- The type of the items of a list. Items of anything else are checked like the whole. -/
def itemType : TypeRef → TypeRef
  | .list item => item
  | .nonNull inner => if isListType inner then itemType inner else .nonNull inner
  | .named name => .named name

/-- The first field that an input object does not have. -/
def unknownField (inputs : List InputValue) (type : String) (fields : List (String × Value)) :
    List Finding :=
  match fields.find? fun field => !inputs.any fun input => input.name.text == field.1 with
  | some (name, value) => [found value.place (.unknownInputField name type)]
  | none => []

/-- A required field is neither left out nor null. -/
def missingFields (inputs : List InputValue) (type : String) (place : Nat)
    (fields : List (String × Value)) : List Finding :=
  inputs.flatMap fun input =>
    let name := input.name.text
    let isGiven := fields.any fun field => field.1 == name
    let isNull := fields.any fun field => field.1 == name && field.2.isNull
    demand (!input.isRequired || (isGiven && !isNull))
      (found place (.requiredInputField (.field type name)))

/-- Values of a type that is not known are not checked. -/
def withForm (schema : Schema) (type : TypeRef) (check : InputForm → List Finding) :
    List Finding :=
  match schema.body? type.core.text with
  | none => []
  | some body => check (inputForm type.core.text body)

/-- A list can be given for a list and for a scalar of one's own. -/
def acceptsList (form : InputForm) (type : TypeRef) : Bool :=
  isListType type || match form with
    | .custom => true
    | _ => false

mutual

/-- This function checks a value against a type. -/
def checkValue (schema : Schema) (defined : List VariableDefinition) (type : TypeRef) :
    Value → List Finding
  | .int place digits => withForm schema type fun form =>
      checkInt form place digits (wrongValue type (.int place digits))
  | .float place digits => withForm schema type fun form =>
      checkFloat form place digits (wrongValue type (.float place digits))
  | .text place content => withForm schema type fun form =>
      checkText form (wrongValue type (.text place content))
  | .boolean place held => withForm schema type fun form =>
      checkBoolean form (wrongValue type (.boolean place held))
  | .null place => withForm schema type fun _ =>
      demand (!type.isNonNull) (wrongValue type (.null place))
  | .variable place name => withForm schema type fun form =>
      checkVariable form defined type.core.text place name
        (wrongValue type (.variable place name))
  | .choice place name => withForm schema type fun form =>
      checkChoice form type.core.text place name (wrongValue type (.choice place name))
  | .list place items => withForm schema type fun form =>
      if acceptsList form type then checkItems schema defined (itemType type) items
      else [wrongValue type (.list place items)]
  | .object place fields => withForm schema type fun form =>
      match form with
      | .custom => []
      | .object inputs =>
          unknownField inputs type.core.text fields
            ++ missingFields inputs type.core.text place fields
            ++ checkFields schema defined inputs [] fields
      | _ => [wrongValue type (.object place fields)]

def checkItems (schema : Schema) (defined : List VariableDefinition) (type : TypeRef) :
    List Value → List Finding
  | [] => []
  | item :: items =>
      checkValue schema defined type item ++ checkItems schema defined type items

/-- Of fields with the same name, the first one is checked. -/
def checkFields (schema : Schema) (defined : List VariableDefinition)
    (inputs : List InputValue) (seen : List String) : List (String × Value) → List Finding
  | [] => []
  | (name, value) :: fields =>
      let others := checkFields schema defined inputs (name :: seen) fields
      match inputs.find? fun input => input.name.text == name with
      | some input =>
          if seen.contains name then others
          else checkValue schema defined input.type value ++ others
      | none => others

end

end OperationCheck.Validation
