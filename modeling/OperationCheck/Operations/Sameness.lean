import OperationCheck.Operations.Fields
import OperationCheck.TypeSystem.Schema

/-!
When two fields may share a name in the answer. They must have types of one shape. If one object can
have both of them, they must be the same field with the same arguments.
-/

namespace OperationCheck.Operations

open OperationCheck.Language OperationCheck.TypeSystem

mutual

/-- The order of the fields of an object does not matter. Lists are compared as far as both go. -/
def sameValue : Value → Value → Bool
  | .variable _ first, .variable _ second => first == second
  | .int _ first, .int _ second => first == second
  | .float _ first, .float _ second => first == second
  | .text _ first, .text _ second => first == second
  | .boolean _ first, .boolean _ second => first == second
  | .null _, .null _ => true
  | .choice _ first, .choice _ second => first == second
  | .list _ first, .list _ second => sameItems first second
  | .object _ first, .object _ second =>
      first.length == second.length && sameFields second first
  | _, _ => false

def sameItems : List Value → List Value → Bool
  | first :: items, second :: others => sameValue first second && sameItems items others
  | _, _ => true

/-- All fields are among the others. -/
def sameFields (others : List (String × Value)) : List (String × Value) → Bool
  | [] => true
  | (name, value) :: fields =>
      (match others.find? fun other => other.1 == name with
        | some other => sameValue value other.2
        | none => false) && sameFields others fields

end

def findArgument (arguments : List Argument) (name : String) : Option Argument :=
  arguments.find? fun argument => argument.name.text == name

/-- The order of arguments does not matter. -/
def sameArguments (first second : List Argument) : Bool :=
  (first.all fun argument =>
    (findArgument second argument.name.text).any fun other =>
      sameValue other.value argument.value)
    && second.all fun argument => (findArgument first argument.name.text).isSome

/-- Two scalars or enums must be the same. Two composite types are looked into later on, and of
types that are not known nothing is said. -/
def sameCore (schema : Schema) (first second : String) : Bool :=
  match schema.body? first, schema.body? second with
  | some firstBody, some secondBody =>
      if isComposite firstBody && isComposite secondBody then true
      else !isComposite firstBody && !isComposite secondBody && first == second
  | _, _ => true

/-- Types of one shape have the same lists, and they agree on where null is possible. -/
def sameShape (schema : Schema) : TypeRef → TypeRef → Bool
  | .nonNull first, .nonNull second => sameShape schema first second
  | .list first, .list second => sameShape schema first second
  | .named first, .named second => sameCore schema first.text second.text
  | _, _ => false

/-- Items are grouped by a key, in the order in which the keys first occur. -/
def groupBy {α : Type} (key : α → String) (items : List α) : List (List α) :=
  let keys := items.foldl (fun keys item =>
    if keys.contains (key item) then keys else keys ++ [key item]) []
  keys.map fun name => items.filter fun item => key item == name

/-- Fields of different object types never meet. Fields of other types may meet all of them. -/
def meetingGroups (schema : Schema) (fields : List SelectedField) : List (List SelectedField) :=
  let concrete := fields.filter fun field =>
    match schema.body? field.parent with
    | some (.object _ _) => true
    | _ => false
  let abstract := fields.filter fun field =>
    match schema.body? field.parent with
    | some (.interface _ _) | some (.union _) => true
    | _ => false
  if concrete.isEmpty then [abstract]
  else (groupBy SelectedField.parent concrete).map fun group => group ++ abstract

end OperationCheck.Operations
