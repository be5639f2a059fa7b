import OperationCheck.Validation.Value

/-!
Checking arguments and directives.
-/

namespace OperationCheck.Validation

open OperationCheck.Language OperationCheck.TypeSystem

/-- An argument is given once. -/
def checkDistinct (arguments : List Argument) : List Finding :=
  go [] arguments
where
  go (seen : List String) : List Argument → List Finding
    | [] => []
    | argument :: rest =>
        let name := argument.name.text
        demand (!seen.contains name) (found argument.name.place (.argumentGivenTwice name))
          ++ go (name :: seen) rest

/-- A variable that may be null is only used where null is not expected if one of the two sides has
a default. -/
def isUsable (known : VariableDefinition) (input : InputValue) : Bool :=
  if input.type.isNonNull && !known.type.isNonNull then
    (known.default.isSome || input.default.isSome)
      && isAssignable known.type input.type.nullable
  else isAssignable known.type input.type

/-- A variable must be usable for its argument, and any other value must fit the type. -/
def checkArgument (schema : Schema) (defined : List VariableDefinition) (input : InputValue)
    (argument : Argument) : List Finding :=
  let fits := checkValue schema defined input.type argument.value
  match argument.value with
  | .variable _ name =>
      match defined.find? fun known => known.name == name with
      | some known =>
          if isUsable known input then fits
          else [found argument.name.place (.variableMismatch name known.type.text
            argument.name.text input.type.text)]
      | none => fits
  | _ => fits

/-- A required argument is neither left out nor null. -/
def missingArguments (owner : Coordinate) (place : Nat) (inputs : List InputValue)
    (arguments : List Argument) : List Finding :=
  inputs.flatMap fun input =>
    let given := arguments.find? fun argument => argument.name.text == input.name.text
    demand (!input.isRequired || given.any fun argument => !argument.value.isNull)
      (found place (.requiredArgument (owner.withArgument input.name.text)))

/-- The arguments of a field or a directive must be known, and they must fit. -/
def checkArguments (schema : Schema) (defined : List VariableDefinition) (owner : Coordinate)
    (place : Nat) (inputs : List InputValue) (arguments : List Argument) : List Finding :=
  (arguments.flatMap fun argument =>
    match inputs.find? fun input => input.name.text == argument.name.text with
    | some input => checkArgument schema defined input argument
    | none => [found argument.name.place (.unknownArgument argument.name.text owner)])
  ++ missingArguments owner place inputs arguments

/-- A directive must be known, it must stand where it may, and only some can be repeated. -/
def checkDirective (schema : Schema) (defined : List VariableDefinition) (location : String)
    (isRepeated : Bool) (directive : Directive) : List Finding :=
  let name := directive.name.text
  checkDistinct directive.arguments ++
    match schema.directive? name with
    | none => [found directive.place (.unknownDirective name)]
    | some definition =>
        demand (!isRepeated || definition.repeatable) (found directive.place (.repeatedDirective name))
          ++ demand (definition.locations.contains location)
            (found directive.place (.misplacedDirective name location))
          ++ checkArguments schema defined (.directive name) directive.place
            definition.arguments directive.arguments

/-- This function checks the directives at one location. -/
def checkDirectives (schema : Schema) (defined : List VariableDefinition) (location : String)
    (directives : List Directive) : List Finding :=
  go [] directives
where
  go (seen : List String) : List Directive → List Finding
    | [] => []
    | directive :: rest =>
        let name := directive.name.text
        checkDirective schema defined location (seen.contains name) directive
          ++ go (name :: seen) rest

end OperationCheck.Validation
