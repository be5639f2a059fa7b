/-!
Values of a configuration file. Tables remember how they were written, because that decides
whether they may still be extended.
-/

namespace OperationCheck.Toml

/-- A table is written inline, under a header of its own, on the way to a header, or through a
dotted key. -/
inductive Form where
  | inline
  | header
  | implicit
  | dotted
deriving Repr, DecidableEq

/-- Only the kind of a number, a truth value or a date matters to its readers. -/
inductive Value where
  | text (content : String)
  | number
  | truth
  | moment
  | array (items : List Value)
  | tables (elements : List (List (String × Value)))
  | table (form : Form) (fields : List (String × Value))

abbrev Fields := List (String × Value)

def Fields.get? (fields : Fields) (key : String) : Option Value := fields.lookup key

/-- The value of a key that is present is replaced in its place. -/
def Fields.replace (fields : Fields) (key : String) (value : Value) : Fields :=
  fields.map fun field => if field.1 = key then (key, value) else field

/-- A new key comes last. -/
def Fields.add (fields : Fields) (key : String) (value : Value) : Fields := fields ++ [(key, value)]

/-- This function changes the table at the end of a path. Missing tables on the way are made. A
table with a header of its own cannot be extended by dotted keys, and an inline table not at all.
In an array of tables, the path goes to the last one. -/
def change (dotted : Bool) (action : Form → Fields → Option Fields) :
    List String → Form → Fields → Option Fields
  | [], form, fields => action form fields
  | key :: path, _, fields =>
      match fields.get? key with
      | none =>
          let form := if dotted then Form.dotted else Form.implicit
          (change dotted action path form []).map fun inner => fields.add key (.table form inner)
      | some (.table form inner) =>
          if form = .inline ∨ (dotted ∧ form = .header) then none
          else (change dotted action path form inner).map fun inner =>
            fields.replace key (.table form inner)
      | some (.tables elements) =>
          match elements.getLast? with
          | none => none
          | some last => (change dotted action path .header last).map fun inner =>
              fields.replace key (.tables (elements.dropLast ++ [inner]))
      | some _ => none

/-- A dotted key ends in a table that was made by dotted keys, and a plain key in one that was
not. No key is used twice. -/
def insertAt (path : List String) (key : String) (value : Value) (form : Form) (fields : Fields) :
    Option Fields :=
  change true (fun form fields =>
    if (form == .dotted) == path.isEmpty then none
    else
      match fields.get? key with
      | some _ => none
      | none => some (fields.add key value)) path form fields

/-- A header defines a table once. A table that was only on the way to another one may still be
defined. -/
def openTable (path : List String) (key : String) (fields : Fields) : Option Fields :=
  change false (fun _ fields =>
    match fields.get? key with
    | none => some (fields.add key (.table .header []))
    | some (.table .implicit inner) => some (fields.replace key (.table .header inner))
    | some _ => none) path .header fields

/-- A double header adds a table to an array of tables. -/
def appendTable (path : List String) (key : String) (fields : Fields) : Option Fields :=
  change false (fun _ fields =>
    match fields.get? key with
    | none => some (fields.add key (.tables [[]]))
    | some (.tables elements) => some (fields.replace key (.tables (elements ++ [[]])))
    | some _ => none) path .header fields

/-- A key belongs to the table of the last header. -/
def insertUnder (header : List String) (path : List String) (key : String) (value : Value)
    (fields : Fields) : Option Fields :=
  change false (insertAt path key value) header .header fields

end OperationCheck.Toml
