import OperationCheck.Toml.Reader

/-!
Rule sheets, which are rule tables as they are written in a file. A sheet has a heading and a list
of rules, and each rule gives a link for the messages that its pattern is found in.
-/

namespace OperationCheck.Rules

open OperationCheck.Toml

/-- A rule may have a name. Its pattern is a text that is still to be read. -/
structure Line where
  name : Option String
  pattern : String
  link : String
deriving Repr, DecidableEq

structure Sheet where
  name : String
  description : Option String
  lines : List Line
deriving Repr, DecidableEq

def asText : Value → Option String
  | .text content => some content
  | _ => none

/-- A key that is missing gives no text, and a key that holds something else is a fault. -/
def optionalText (fields : Fields) (key : String) : Option (Option String) :=
  match fields.get? key with
  | none => some none
  | some value => (asText value).map some

def requiredText (fields : Fields) (key : String) : Option String :=
  (fields.get? key).bind asText

/-- A heading is a table, or an array that begins with its name and its description. -/
def heading? : Value → Option (String × Option String)
  | .table _ fields =>
      (requiredText fields "name").bind fun name =>
        (optionalText fields "description").map fun description => (name, description)
  | .array (.text name :: .text description :: _) => some (name, some description)
  | _ => none

def lineOfFields? (fields : Fields) : Option Line :=
  (optionalText fields "rule").bind fun name =>
    (requiredText fields "pattern").bind fun pattern =>
      (requiredText fields "link").map fun link => ⟨name, pattern, link⟩

/-- A rule is a table, or an array that begins with its name, its pattern and its link. -/
def line? : Value → Option Line
  | .table _ fields => lineOfFields? fields
  | .array (.text name :: .text pattern :: .text link :: _) => some ⟨some name, pattern, link⟩
  | _ => none

/-- The rules are an array of tables or an array of values. -/
def lines? : Value → Option (List Line)
  | .tables elements => elements.mapM lineOfFields?
  | .array items => items.mapM line?
  | _ => none

/-- A sheet needs a heading. Keys that it does not know are passed over. -/
def Sheet.ofFields? (fields : Fields) : Option Sheet :=
  ((fields.get? "table").bind heading?).bind fun (name, description) =>
    match fields.get? "rules" with
    | none => some ⟨name, description, []⟩
    | some rules => (lines? rules).map fun lines => ⟨name, description, lines⟩

def Sheet.parse? (source : String) : Option Sheet := (Toml.parse? source).bind Sheet.ofFields?

end OperationCheck.Rules
