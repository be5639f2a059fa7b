import OperationCheck.CommandLine.Flag

/-!
Reading the arguments of the command line. The value of a flag is attached to it or comes next. A
flag whose value comes next is settled when the argument after it is read.
-/

namespace OperationCheck.CommandLine

/-- Arguments can ask for a text, or they are refused. -/
inductive Refusal where
  | help
  | version
  | unknownArgument
  | invalidValue
  | givenTwice
  | unneededValue
  | missingSchema
deriving Repr, DecidableEq

/-- The flags with their values, and a flag that is not settled, whose value may be still to
come. -/
structure Reading where
  given : List (Flag × String)
  waiting : Option (Flag × Option String)
  isClosed : Bool
deriving Repr

def Reading.start : Reading := ⟨[], none, false⟩

def Reading.value? (reading : Reading) (flag : Flag) : Option String :=
  reading.given.lookup flag

/-- A choice is one of its values, and a directory has a name. -/
def isValue (flag : Flag) (value : String) : Bool :=
  if flag.isChoice then (Choice.ofName? value).isSome
  else if flag = .rulesDirectory then value ≠ ""
  else true

def Reading.store (reading : Reading) (flag : Flag) (value : String) : Except Refusal Reading :=
  if (reading.value? flag).isSome && !flag.isRepeatable then .error .givenTwice
  else if isValue flag value then
    .ok { reading with given := reading.given ++ [(flag, value)] }
  else .error .invalidValue

/-- A flag is not settled without a value. -/
def Reading.settle (reading : Reading) : Except Refusal Reading :=
  match reading.waiting with
  | none => .ok reading
  | some (_, none) => .error .invalidValue
  | some (flag, some value) => ({ reading with waiting := none }).store flag value

/-- The value of a flag is attached, or the flag waits for it. -/
def Reading.readFlag (reading : Reading) (flag : Flag) (value : Option String) :
    Except Refusal Reading := do
  let settled ← reading.settle
  match value with
  | some value => settled.store flag value
  | none => return { settled with waiting := some (flag, none) }

def Reading.refuse (reading : Reading) (refusal : Refusal) : Except Refusal Reading := do
  let _ ← reading.settle
  .error refusal

/-- Two flags have no value. They are known by their names or by the letters they begin with. -/
def textFlags : List (String × Char × Refusal) := [("help", 'h', .help), ("version", 'V', .version)]

/-- An equality sign separates a name from its value. -/
def cutValue (text : List Char) : String × Option String :=
  (String.ofList (text.takeWhile (· ≠ '=')),
    match text.dropWhile (· ≠ '=') with
    | _ :: value => some (String.ofList value)
    | [] => none)

def Reading.readName (reading : Reading) (text : List Char) : Except Refusal Reading :=
  let (name, value) := cutValue text
  match textFlags.find? fun flag => flag.1 == name, Flag.ofName? name with
  | some (_, _, refusal), _ =>
      if value.isSome then .error .unneededValue else reading.refuse refusal
  | _, some flag => reading.readFlag flag value
  | _, _ => .error .unknownArgument

/-- What stands behind a letter is its value, with or without an equality sign. -/
def attachedValue : List Char → Option String
  | [] => none
  | '=' :: value => some (String.ofList value)
  | value => some (String.ofList value)

def Reading.readLetter (reading : Reading) (letter : Char) (rest : List Char) :
    Except Refusal Reading :=
  match textFlags.find? fun flag => flag.2.1 == letter, Flag.ofLetter? letter with
  | some (_, _, refusal), _ => reading.refuse refusal
  | _, some flag => reading.readFlag flag (attachedValue rest)
  | _, _ => .error .unknownArgument

/-- Anything else is the value of the flag that waits for one. -/
def Reading.readPlain (reading : Reading) (argument : String) : Except Refusal Reading :=
  match reading.waiting with
  | some (flag, none) => .ok { reading with waiting := some (flag, some argument) }
  | _ => .error .unknownArgument

/-- No argument can stand behind two dashes. -/
def Reading.readArgument (reading : Reading) (argument : String) : Except Refusal Reading :=
  if reading.isClosed then .error .unknownArgument
  else
    match argument.toList with
    | ['-', '-'] => .ok { reading with isClosed := true }
    | '-' :: '-' :: text => reading.readName text
    | '-' :: letter :: rest => reading.readLetter letter rest
    | _ => reading.readPlain argument

/-- The flags that were given, or their defaults. -/
structure Arguments where
  schema : String
  operation : String
  headers : List String
  rules : String
  rulesDirectory : Option String
  links : Choice
  color : Choice
  logLevel : String
deriving Repr

def Reading.text (reading : Reading) (flag : Flag) : String :=
  ((reading.value? flag).or flag.default?).getD ""

def Reading.choice (reading : Reading) (flag : Flag) : Choice :=
  (Choice.ofName? (reading.text flag)).getD .auto

def Reading.headers (reading : Reading) : List String :=
  reading.given.filterMap fun given => if given.1 = .header then some given.2 else none

/-- Only the schema has no default. -/
def Reading.finish (reading : Reading) : Except Refusal Arguments := do
  let settled ← reading.settle
  match settled.value? .schema with
  | none => .error .missingSchema
  | some schema => return {
      schema
      operation := settled.text .operation
      headers := settled.headers
      rules := settled.text .rules
      rulesDirectory := settled.value? .rulesDirectory
      links := settled.choice .links
      color := settled.choice .color
      logLevel := settled.text .logLevel }

/-- This function reads all arguments. -/
def Arguments.read (arguments : List String) : Except Refusal Arguments := do
  let reading ← arguments.foldlM Reading.readArgument Reading.start
  reading.finish

end OperationCheck.CommandLine
