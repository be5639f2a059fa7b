/-!
Data that is exchanged as text: texts, numbers, truth values, lists and objects.
-/

namespace OperationCheck.Json

/-- A number is kept as it was written. -/
inductive Value where
  | null
  | boolean (value : Bool)
  | number (digits : String)
  | text (content : String)
  | list (items : List Value)
  | object (members : List (String × Value))
deriving Repr

/-- Of members with one name, the last one counts. -/
def lastMember (members : List (String × Value)) (name : String) : Option Value :=
  (members.reverse.find? fun member => member.1 == name).map Prod.snd

/-- Only objects have members. -/
def Value.member? : Value → String → Option Value
  | .object members, name => lastMember members name
  | _, _ => none

def Value.isNull : Value → Bool
  | .null => true
  | _ => false

/-- A member that is null counts as missing. -/
def Value.lacks (value : Value) (name : String) : Bool :=
  match value.member? name with
  | some held => held.isNull
  | none => true

def Value.text? : Value → Option String
  | .text content => some content
  | _ => none

def Value.boolean? : Value → Option Bool
  | .boolean value => some value
  | _ => none

def Value.list? : Value → Option (List Value)
  | .list items => some items
  | _ => none

end OperationCheck.Json
