import OperationCheck.Language.Reading.Value

/-!
Reading operations and fragments.
-/

namespace OperationCheck.Language.Reading

/-- The name of a fragment is not the word that stands before type conditions. -/
def readFragmentName : Reading (Option Name) := do
  if (← isAtName) && (← peekText) == "on" then
    note .fragmentNamedOn
    return none
  nameOr "a Fragment Name"

def readTypeCondition : Reading (Option Name) := do
  if (← isAtName) && (← peekText) == "on" then pass else note (.expected "'on'")
  nameOr "a Name in Type Condition"

/-- A second name behind a colon is the name of the field, and the first one is its alias. -/
def readFieldName : Reading (Option String × Option Name) := do
  match ← second with
  | some ⟨.mark ':', _, _⟩ =>
      let aliasName ← takeName
      pass
      return (aliasName.map Name.text, ← readName)
  | _ => return (none, ← readName)

mutual

/-- Selections stand between braces. The result is nothing if there are no braces. -/
def readSelectionSet : Nat → Reading (Option (List Selection))
  | 0 => return none
  | fuel + 1 => do
      if ← isAt '\x7b' then
        pass
        if ← enter then
          let (count, selections) ← readSelections fuel
          if count = 0 then note (.expected "at least one Selection in Selection Set")
          leave
          expect '\x7d'
          return some selections
        else return some []
      else return none

/-- The number counts the selections, also those that are left out of the result. -/
def readSelections : Nat → Reading (Nat × List Selection)
  | 0 => return (0, [])
  | fuel + 1 => do
      let selection ← match ← peek with
        | some .spread => readSpread fuel
        | some .name => readField fuel
        | _ => return (0, [])
      let (count, selections) ← readSelections fuel
      return (count + 1, selection.toList ++ selections)

def readField : Nat → Reading (Option Selection)
  | 0 => return none
  | fuel + 1 => do
      let place ← here
      let (aliasName, name) ← readFieldName
      let arguments ← readArguments false fuel
      let directives ← readDirectives false fuel
      let selections ← readSelectionSet fuel
      return name.map fun name =>
        .field place aliasName name arguments directives (selections.getD [])

/-- Three dots begin the spread of a fragment or a fragment in its place. -/
def readSpread : Nat → Reading (Option Selection)
  | 0 => return none
  | fuel + 1 => do
      let place ← here
      match ← second with
      | some ⟨.name, "on", _⟩ | some ⟨.mark '@', _, _⟩ | some ⟨.mark '\x7b', _, _⟩ =>
          readInline place fuel
      | some ⟨.name, _, _⟩ =>
          pass
          let name ← readFragmentName
          let directives ← readDirectives false fuel
          return name.map fun name => .spread place name directives
      | _ =>
          note (.expected "an Inline Fragment or a Fragment Spread")
          pass
          return none

/-- A fragment in its place may go without a type condition. -/
def readInline (place : Nat) : Nat → Reading (Option Selection)
  | 0 => return none
  | fuel + 1 => do
      pass
      let condition ← if ← isAtName then readTypeCondition else pure none
      let directives ← readDirectives false fuel
      match ← readSelectionSet fuel with
      | some selections => return some (.inline place condition directives selections)
      | none =>
          note (.expected "Selection Set")
          return none

end

def readVariableDefinition (fuel : Nat) : Reading (Option VariableDefinition) := do
  let place ← here
  let name ← readVariable
  if ← isAt ':' then
    pass
    if ← isAtType then
      let type ← readType fuel
      let default ← readDefault fuel
      let directives ← readDirectives true fuel
      return name.bind fun name => type.map fun type => ⟨place, name.text, type, default, directives⟩
    else
      note (.expected "a Type")
      return none
  else
    note (.expected "a Name")
    return none

def readVariableDefinitions (fuel : Nat) : Reading (List VariableDefinition) := do
  if ← isAt '(' then
    pass
    let definitions ←
      atLeastOne (isAt '$') (readVariableDefinition fuel) "a Variable Definition" fuel
    expect ')'
    return definitions
  return []

def operationKind? (word : String) : Option OperationKind :=
  match word with
  | "query" => some .query
  | "mutation" => some .mutation
  | "subscription" => some .subscription
  | _ => none

/-- An operation without selections is left out. -/
def readNamedOperation (fuel : Nat) : Reading (Option Operation) := do
  let place ← here
  let kind := (operationKind? (← peekText)).getD .query
  pass
  let name ← takeName
  let defined ← readVariableDefinitions fuel
  let directives ← readDirectives false fuel
  match ← readSelectionSet fuel with
  | some selections => return some ⟨place, kind, name, defined, directives, selections⟩
  | none =>
      noteAndPass (.expected "a Selection Set")
      return none

/-- Selections alone are a query without a name. -/
def readOperation (fuel : Nat) : Reading (Option Operation) := do
  match ← peek with
  | some .name => readNamedOperation fuel
  | some (.mark '\x7b') =>
      let place ← here
      return (← readSelectionSet fuel).map fun selections =>
        ⟨place, .query, none, [], [], selections⟩
  | _ =>
      noteAndPass (.expected "an Operation Type or a Selection Set")
      return none

/-- A fragment without a name, a type condition or selections is left out. -/
def readFragment (fuel : Nat) : Reading (Option Fragment) := do
  let place ← here
  pass
  let name ← readFragmentName
  let condition ← readTypeCondition
  let directives ← readDirectives false fuel
  match ← readSelectionSet fuel with
  | some selections =>
      return name.bind fun name => condition.map fun condition =>
        ⟨place, name, condition, directives, selections⟩
  | none =>
      note (.expected "a Selection Set")
      return none

end OperationCheck.Language.Reading
