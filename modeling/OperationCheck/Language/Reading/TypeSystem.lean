import OperationCheck.Language.Reading.Operation

/-!
Reading the definitions of a type system and their extensions.
-/

namespace OperationCheck.Language.Reading

/-- An input without a name or a type is left out. -/
def readInput (fuel : Nat) : Reading (Option InputValue) := do
  let place ← here
  passDescription
  let name ← readName
  if ← isAt ':' then
    pass
    if ← isAtType then
      let type ← readType fuel
      let default ← readDefault fuel
      let directives ← readDirectives true fuel
      return name.bind fun name => type.map fun type => ⟨place, name, type, default, directives⟩
    else
      note (.expected "a Type")
      return none
  else
    note (.expected "a Name")
    return none

def readArgumentDefinitions (fuel : Nat) : Reading (List InputValue) := do
  if ← isAt '(' then
    pass
    let arguments ← atLeastOne isAtDescribed (readInput fuel) "an Argument Definition" fuel
    expect ')'
    return arguments
  return []

/-- A field without a name or a type is left out. -/
def readFieldDefinition (fuel : Nat) : Reading (Option FieldDefinition) := do
  let place ← here
  passDescription
  let name ← readName
  let arguments ← readArgumentDefinitions fuel
  if ← isAt ':' then
    pass
    if ← isAtType then
      let type ← readType fuel
      let directives ← readDirectives true fuel
      return name.bind fun name => type.map fun type => ⟨place, name, arguments, type, directives⟩
    else
      note (.expected "a type")
      return none
  else
    note (.expected "a type")
    return none

/-- A group stands between braces. The answer is whether there is one. -/
def braced {α : Type} (step : Reading (Option α)) (form : String) (fuel : Nat) :
    Reading (Bool × List α) := do
  if ← isAt '\x7b' then
    pass
    let items ← atLeastOne isAtDescribed step form fuel
    expect '\x7d'
    return (true, items)
  return (false, [])

def readFieldDefinitions (fuel : Nat) : Reading (Bool × List FieldDefinition) :=
  braced (readFieldDefinition fuel) "Field Definition" fuel

def readInputFields (fuel : Nat) : Reading (Bool × List InputValue) :=
  braced (readInput fuel) "an Input Value Definition" fuel

/-- The words of the literals are no enum values. -/
def readEnumValue (fuel : Nat) : Reading (Option EnumValue) := do
  let place ← here
  passDescription
  if (← isAtName) && ["true", "false", "null"].contains (← peekText) then note .enumValueName
  let name ← nameOr "Enum Value"
  let directives ← readDirectives true fuel
  return name.map fun name => ⟨place, name, directives⟩

def readEnumValues (fuel : Nat) : Reading (Bool × List EnumValue) :=
  braced (readEnumValue fuel) "Enum Value Definition" fuel

/-- Interfaces are listed behind a word of their own. -/
def readInterfaces (fuel : Nat) : Reading (Bool × List Name) := do
  if (← isAtName) && (← peekText) == "implements" then
    pass
    return (true, ← separated '&' (nameOr "an Interface name") fuel)
  return (false, [])

def readMembers (fuel : Nat) : Reading (Bool × List Name) := do
  if ← isAt '=' then
    pass
    return (true, ← separated '|' (nameOr "Union Member Type") fuel)
  return (false, [])

/-- The places where a directive may stand. -/
def directivePlaces : List String :=
  ["QUERY", "MUTATION", "SUBSCRIPTION", "FIELD", "FRAGMENT_DEFINITION", "FRAGMENT_SPREAD",
    "INLINE_FRAGMENT", "VARIABLE_DEFINITION", "SCHEMA", "SCALAR", "OBJECT", "FIELD_DEFINITION",
    "ARGUMENT_DEFINITION", "INTERFACE", "UNION", "ENUM", "ENUM_VALUE", "INPUT_OBJECT",
    "INPUT_FIELD_DEFINITION"]

def readDirectivePlace : Reading (Option String) := do
  let word ← peekText
  if (← isAtName) && directivePlaces.contains word then
    pass
    return some word
  note (.expected "valid Directive Location")
  return none

def readDirectiveDefinition (fuel : Nat) : Reading (Option DirectiveDefinition) := do
  let place ← here
  passDescription
  pass
  if ← isAt '@' then pass else note (.expected "@ symbol")
  let name ← readName
  let arguments ← readArgumentDefinitions fuel
  let repeatable := (← peekText) == "repeatable"
  if repeatable then pass
  if (← peekText) == "on" then pass else note (.expected "Directive Locations")
  let locations ← separated '|' readDirectivePlace fuel
  return name.map fun name => ⟨place, name, arguments, repeatable, locations⟩

/-- A root names the type of one kind of operation. -/
def readRoot : Reading (Option RootType) := do
  let place ← here
  let kind := operationKind? (← peekText)
  if kind.isSome then pass else noteAndPass (.expected "an Operation Type")
  if ← isAt ':' then
    pass
    let type ← takeName
    return kind.bind fun kind => type.map fun type => ⟨place, kind, type⟩
  else
    note (.expected "a Name Type")
    return none

/-- The roots of a schema stand between braces. The answer is whether there are any braces. -/
def readRoots (fuel : Nat) : Reading (Bool × List RootType) := do
  if ← isAt '\x7b' then
    pass
    let roots ← atLeastOne isAtName readRoot "Root Operation Type Definition" fuel
    expect '\x7d'
    return (true, roots)
  return (false, [])

def readSchema (fuel : Nat) : Reading Definition := do
  let place ← here
  passDescription
  pass
  let directives ← readDirectives true fuel
  let (_, roots) ← readRoots fuel
  return .schema false ⟨place, directives, roots⟩

/-- An extension adds something. -/
def readSchemaExtension (fuel : Nat) : Reading Definition := do
  let place ← here
  pass
  pass
  let directives ← readDirectives true fuel
  let (braces, roots) ← readRoots fuel
  if !braces && directives.isEmpty then
    note (.expected "directives or Root Operation Type Definition")
  return .schema true ⟨place, directives, roots⟩

/-- The parts of a type are read in the order that its kind has. The first part of the result
tells whether there is anything behind the name. -/
def readTypeParts (word : String) (fuel : Nat) : Reading (Bool × List Directive × TypeBody) := do
  match word with
  | "type" => do
      let (listed, interfaces) ← readInterfaces fuel
      let directives ← readDirectives true fuel
      let (braces, fields) ← readFieldDefinitions fuel
      return (listed || braces || !directives.isEmpty, directives, .object interfaces fields)
  | "interface" => do
      let (listed, interfaces) ← readInterfaces fuel
      let directives ← readDirectives true fuel
      let (braces, fields) ← readFieldDefinitions fuel
      return (listed || braces || !directives.isEmpty, directives, .interface interfaces fields)
  | "union" => do
      let directives ← readDirectives true fuel
      let (listed, members) ← readMembers fuel
      return (listed || !directives.isEmpty, directives, .union members)
  | "enum" => do
      let directives ← readDirectives true fuel
      let (braces, values) ← readEnumValues fuel
      return (braces || !directives.isEmpty, directives, .enum values)
  | "input" => do
      let directives ← readDirectives true fuel
      let (braces, fields) ← readInputFields fuel
      return (braces || !directives.isEmpty, directives, .inputObject fields)
  | _ => do
      let directives ← readDirectives true fuel
      return (!directives.isEmpty, directives, .scalar)

def typeWords : List String := ["scalar", "type", "interface", "union", "enum", "input"]

def readTypeDefinition (word : String) (fuel : Nat) : Reading (Option Definition) := do
  let place ← here
  passDescription
  pass
  let name ← nameOr "a name"
  let (_, directives, body) ← readTypeParts word fuel
  return name.map fun name => .type false ⟨place, name, directives, body⟩

/-- What an extension of each kind of type may add. -/
def additions (word : String) : String :=
  match word with
  | "type" | "interface" => "an Implements Interfaces, Directives, or Fields Definition"
  | "union" => "Directives or Union Member Types"
  | "enum" => "Directives or Enum Values Definition"
  | "input" => "Directives or Input Fields Definition"
  | _ => "Directives"

def readTypeExtension (word : String) (fuel : Nat) : Reading (Option Definition) := do
  let place ← here
  pass
  pass
  let name ← nameOr "a Name"
  let (adds, directives, body) ← readTypeParts word fuel
  if !adds then note (.expected (additions word))
  return name.map fun name => .type true ⟨place, name, directives, body⟩

def readExtension (fuel : Nat) : Reading (Option Definition) := do
  let word := ((← second).map Token.text).getD ""
  if word = "schema" then return some (← readSchemaExtension fuel)
  else if typeWords.contains word then readTypeExtension word fuel
  else
    noteAndPass .invalidExtension
    return none

end OperationCheck.Language.Reading
