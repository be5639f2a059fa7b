import OperationCheck.Language.Reading.Basic
import OperationCheck.Language.Reading.Text

/-!
Reading values, types and directives.
-/

namespace OperationCheck.Language.Reading

/-- A variable is a dollar sign and a name. -/
def readVariable : Reading (Option Name) := do
  pass
  readName

/-- A word is one of three literals or the name of an enum value. -/
def wordValue (place : Nat) (word : String) : Value :=
  match word with
  | "true" => .boolean place true
  | "false" => .boolean place false
  | "null" => .null place
  | word => .choice place word

mutual

/-- This function reads a value. In a constant, variables are refused. A token that begins no value
is passed if the flag says so. -/
def readValue (constant passes : Bool) : Nat → Reading (Option Value)
  | 0 => return none
  | fuel + 1 => do
      match ← current with
      | none => return none
      | some token =>
          match token.kind with
          | .mark '$' =>
              if constant then note .variableInConstant
              return (← readVariable).map fun name => .variable token.place name.text
          | .int => pass; return some (.int token.place token.text)
          | .float => pass; return some (.float token.place token.text)
          | .text => pass; return some (.text token.place (stringContent token.text))
          | .name => pass; return some (wordValue token.place token.text)
          | .mark '[' =>
              pass
              let items ← readItems constant fuel
              expect ']'
              return some (.list token.place items)
          | .mark '\x7b' =>
              pass
              let fields ← readFields constant fuel
              expect '\x7d'
              return some (.object token.place fields)
          | _ =>
              note (.expected "a valid Value")
              if passes then pass
              return none

/-- The items of a list go up to its closing bracket. -/
def readItems (constant : Bool) : Nat → Reading (List Value)
  | 0 => return []
  | fuel + 1 => do
      match ← peek with
      | none | some (.mark ']') | some .stop => return []
      | _ =>
          if ← enter then
            let item ← readValue constant true fuel
            leave
            let items ← readItems constant fuel
            return item.toList ++ items
          else return []

/-- The fields of an object go on as long as there are names. -/
def readFields (constant : Bool) : Nat → Reading (List (String × Value))
  | 0 => return []
  | fuel + 1 => do
      match ← takeName with
      | none => return []
      | some name =>
          if ← isAt ':' then
            pass
            if ← enter then
              let value ← readValue constant true fuel
              leave
              let fields ← readFields constant fuel
              return (value.map fun value => (name.text, value)).toList ++ fields
            else return []
          else readFields constant fuel

end

/-- An argument without a value is left out. -/
def readArgument (constant : Bool) (fuel : Nat) : Reading (Option Argument) := do
  let name ← readName
  if ← isAt ':' then
    pass
    let value ← readValue constant false fuel
    return name.bind fun name => value.map fun value => ⟨name, value⟩
  return none

def readArguments (constant : Bool) (fuel : Nat) : Reading (List Argument) := do
  if ← isAt '(' then
    pass
    let arguments ← atLeastOne isAtName (readArgument constant fuel) "an Argument" fuel
    expect ')'
    return arguments
  return []

def readDirective (constant : Bool) (fuel : Nat) : Reading (Option Directive) := do
  let place ← here
  pass
  let name ← readName
  let arguments ← readArguments constant fuel
  return name.map fun name => ⟨place, name, arguments⟩

def readDirectives (constant : Bool) (fuel : Nat) : Reading (List Directive) :=
  many (isAt '@') (readDirective constant fuel) fuel

/-- A type is a name or a list. The second part of the result is a token that begins no type. -/
def readTypeOrToken : Nat → Reading (Option TypeRef × Option Token)
  | 0 => return (none, none)
  | fuel + 1 => do
      let markNonNull (type : Option TypeRef) : Reading (Option TypeRef × Option Token) := do
        if ← isAt '!' then
          pass
          return (type.map .nonNull, none)
        return (type, none)
      match ← current with
      | none => return (none, none)
      | some token =>
          match token.kind with
          | .mark '[' =>
              pass
              if ← enter then
                let (item, refused) ← readTypeOrToken fuel
                leave
                match refused with
                | some token => noteAt token.place (.expected "item type")
                | none => pure ()
                expect ']'
                markNonNull (item.map .list)
              else return (none, none)
          | .name =>
              pass
              markNonNull (some (.named ⟨token.text, token.place⟩))
          | _ =>
              pass
              return (none, some token)

def readType (fuel : Nat) : Reading (Option TypeRef) := do
  let (type, refused) ← readTypeOrToken fuel
  match refused with
  | some token => noteAt token.place (.expected "a type")
  | none => pure ()
  return type

/-- A type begins with a name or a bracket. -/
def isAtType : Reading Bool := do
  return (← isAtName) || (← isAt '[')

/-- A default is a constant value behind an equals sign. -/
def readDefault (fuel : Nat) : Reading (Option Value) := do
  if ← isAt '=' then
    pass
    readValue true false fuel
  else return none

end OperationCheck.Language.Reading
