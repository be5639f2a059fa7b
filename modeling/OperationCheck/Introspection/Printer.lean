import OperationCheck.Introspection.Schema

/-!
Writing a described schema as the source of a schema. Whatever every schema has is left out.
-/

namespace OperationCheck.Introspection

open OperationCheck.Language

/-- What is within something is moved to the right. Lines without text stay empty. -/
def indent (text : String) : String :=
  "\n".intercalate ((text.toList.splitOn '\n').map fun line =>
    if line.isEmpty then "" else "  " ++ String.ofList line)

/-- A description stands on lines of its own before the thing it describes. -/
def describe (description : Option String) : String :=
  match description with
  | some text => "\"\"\"\n" ++ text ++ "\n\"\"\"\n"
  | none => ""

/-- Quotation marks, backslashes and line breaks are escaped. -/
def escapeChar (c : Char) : String :=
  match c with
  | '"' => "\\\""
  | '\\' => "\\\\"
  | '\n' => "\\n"
  | '\r' => "\\r"
  | c => c.toString

def escape (text : String) : String := String.join (text.toList.map escapeChar)

def quoted (text : String) : String := "\"" ++ escape text ++ "\""

def showDeprecation : Option Deprecation → String
  | some ⟨some reason⟩ => " @deprecated(reason: " ++ quoted reason ++ ")"
  | some ⟨none⟩ => " @deprecated"
  | none => ""

def showInput (input : DescribedInput) : String :=
  describe input.description ++ input.name ++ ": " ++ input.type.text
    ++ (input.default.map (" = " ++ ·)).getD "" ++ showDeprecation input.deprecation

/-- Names longer than this in all do not share a line. -/
def lineLimit : Nat := 80

/-- The length of the names that would stand on one line. -/
def nameLength (name : String) (arguments : List DescribedInput) : Nat :=
  let names := arguments.flatMap fun argument => [argument.name, argument.type.core.text]
  (String.join (name :: names)).utf8ByteSize

/-- Arguments stand on one line, unless the line would be too long or one of them is described. -/
def showArguments (length : Nat) (arguments : List DescribedInput) : String :=
  if arguments.isEmpty then ""
  else if lineLimit < length || arguments.any fun argument => argument.description.isSome then
    "(\n" ++ indent (String.join (arguments.map fun argument => showInput argument ++ "\n")) ++ ")"
  else "(" ++ ", ".intercalate (arguments.map showInput) ++ ")"

def showField (field : DescribedField) : String :=
  let length := nameLength field.name field.arguments + field.type.core.text.utf8ByteSize
  describe field.description ++ field.name ++ showArguments length field.arguments ++ ": "
    ++ field.type.text ++ showDeprecation field.deprecation

def showValue (value : DescribedValue) : String :=
  describe value.description ++ value.name ++ showDeprecation value.deprecation

/-- A body without parts has no braces. -/
def showBody (parts : List String) : String :=
  if parts.isEmpty then "\n"
  else " \x7b\n" ++ indent (String.join (parts.map (· ++ "\n"))) ++ "\x7d\n\n"

def showInterfaces (interfaces : List String) : String :=
  if interfaces.isEmpty then "" else " implements " ++ " & ".intercalate interfaces

/-- The members of a union stand on lines of their own when their names are too long. -/
def showMembers (members : List String) : String :=
  if lineLimit < (String.join members).utf8ByteSize then
    "\n    " ++ "\n  | ".intercalate members
  else if members.isEmpty then ""
  else " " ++ " | ".intercalate members

def showType (type : DescribedType) : String :=
  describe type.description ++
    match type.body with
    | .scalar => "scalar " ++ type.name ++ "\n\n"
    | .object interfaces fields =>
        "type " ++ type.name ++ showInterfaces interfaces ++ showBody (fields.map showField)
    | .interface interfaces fields =>
        "interface " ++ type.name ++ showInterfaces interfaces ++ showBody (fields.map showField)
    | .union members => "union " ++ type.name ++ " =" ++ showMembers members ++ "\n\n"
    | .enum values => "enum " ++ type.name ++ showBody (values.map showValue)
    | .inputObject isOneOf fields =>
        "input " ++ type.name ++ (if isOneOf then " @oneOf" else "")
          ++ showBody (fields.map showInput)

def showDirective (directive : DescribedDirective) : String :=
  describe directive.description ++ "directive @" ++ directive.name
    ++ showArguments (nameLength directive.name directive.arguments) directive.arguments
    ++ (if directive.isRepeatable then " repeatable" else "") ++ " on "
    ++ " | ".intercalate directive.locations ++ "\n\n"

def hasUsualRoots (schema : DescribedSchema) : Bool :=
  schema.query == "Query" && schema.mutation.all (· == "Mutation")
    && schema.subscription.all (· == "Subscription")

/-- A root is named where some root has another name than the usual one. -/
def showRoots (schema : DescribedSchema) : String :=
  if hasUsualRoots schema then ""
  else "schema \x7b\n  query: " ++ schema.query ++ "\n"
    ++ (schema.mutation.map fun name => "  mutation: " ++ name ++ "\n").getD ""
    ++ (schema.subscription.map fun name => "  subscription: " ++ name ++ "\n").getD "" ++ "\x7d\n"

def builtInScalars : List String := ["Boolean", "Float", "ID", "Int", "String"]

def builtInDirectives : List String :=
  ["deprecated", "include", "oneOf", "skip", "specifiedBy"]

/-- Names with two underscores in front belong to what every schema has. -/
def isOwnType (type : DescribedType) : Bool :=
  let isBuiltIn := match type.body with
    | .scalar => builtInScalars.contains type.name
    | _ => false
  !isBuiltIn && !type.name.startsWith "__"

def isOwnDirective (directive : DescribedDirective) : Bool :=
  !builtInDirectives.contains directive.name

/-- This function writes the source of a schema. -/
def DescribedSchema.source (schema : DescribedSchema) : String :=
  showRoots schema
    ++ String.join ((schema.types.filter isOwnType).map showType)
    ++ String.join ((schema.directives.filter isOwnDirective).map showDirective)

end OperationCheck.Introspection
