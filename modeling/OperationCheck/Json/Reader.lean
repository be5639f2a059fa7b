import OperationCheck.Json.Scalar

/-!
Reading a value from its text.
-/

namespace OperationCheck.Json

def isSpace (c : Char) : Bool := c == ' ' || c == '\n' || c == '\t' || c == '\r'

def skipSpace (source : List Char) : List Char := source.dropWhile isSpace

/-- The rest behind a word that has to come next. -/
def dropWord : List Char → List Char → Option (List Char)
  | [], source => some source
  | _ :: _, [] => none
  | c :: word, first :: rest => if c = first then dropWord word rest else none

def readWord (word : String) (value : Value) (source : List Char) :
    Option (Value × List Char) :=
  (dropWord word.toList source).map fun rest => (value, rest)

mutual

/-- Lists and objects can be within each other as often as the depth says. -/
def readValue : Nat → Nat → List Char → Option (Value × List Char)
  | 0, _, _ => none
  | fuel + 1, depth, source =>
      match skipSpace source with
      | '[' :: rest =>
          match depth with
          | 0 => none
          | depth + 1 =>
              match skipSpace rest with
              | ']' :: rest => some (.list [], rest)
              | rest => readItems fuel depth [] rest
      | '\x7b' :: rest =>
          match depth with
          | 0 => none
          | depth + 1 =>
              match skipSpace rest with
              | '\x7d' :: rest => some (.object [], rest)
              | rest => readMembers fuel depth [] rest
      | '"' :: rest => (readText fuel [] rest).map fun (content, rest) =>
          (.text content, rest)
      | 't' :: rest => readWord "true" (.boolean true) ('t' :: rest)
      | 'f' :: rest => readWord "false" (.boolean false) ('f' :: rest)
      | 'n' :: rest => readWord "null" .null ('n' :: rest)
      | rest => readNumber rest

/-- Items have commas between them. The items read so far are in reverse order. -/
def readItems : Nat → Nat → List Value → List Char → Option (Value × List Char)
  | 0, _, _, _ => none
  | fuel + 1, depth, taken, source =>
      match readValue fuel depth source with
      | none => none
      | some (item, rest) =>
          match skipSpace rest with
          | ',' :: rest => readItems fuel depth (item :: taken) rest
          | ']' :: rest => some (.list (item :: taken).reverse, rest)
          | _ => none

def readMembers : Nat → Nat → List (String × Value) → List Char → Option (Value × List Char)
  | 0, _, _, _ => none
  | fuel + 1, depth, taken, source =>
      match skipSpace source with
      | '"' :: rest =>
          match readText fuel [] rest with
          | none => none
          | some (name, rest) =>
              match skipSpace rest with
              | ':' :: rest =>
                  match readValue fuel depth rest with
                  | none => none
                  | some (value, rest) =>
                      match skipSpace rest with
                      | ',' :: rest => readMembers fuel depth ((name, value) :: taken) rest
                      | '\x7d' :: rest =>
                          some (.object ((name, value) :: taken).reverse, rest)
                      | _ => none
              | _ => none
      | _ => none

end

/-- One less than the number of levels at which reading stops. -/
def depthLimit : Nat := 127

/-- This function reads a text that holds one value and nothing else. -/
def Value.read (source : List Char) : Option Value :=
  match readValue (2 * source.length + 2) depthLimit source with
  | some (value, rest) => if (skipSpace rest).isEmpty then some value else none
  | none => none

def Value.parse (text : String) : Option Value := Value.read text.toList

end OperationCheck.Json
