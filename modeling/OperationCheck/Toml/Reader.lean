import OperationCheck.Toml.Quoted
import OperationCheck.Toml.Scalar

/-!
Reading a configuration file: keys, values, and lines under headers.
-/

namespace OperationCheck.Toml

def isBareKey (c : Char) : Bool := c.isAlphanum || c == '-' || c == '_'

/-- A part of a key is bare or quoted on one line. -/
def readKeyPart (source : List Char) : Option (String × List Char) :=
  match source with
  | '"' :: '"' :: '"' :: _ => none
  | '\'' :: '\'' :: '\'' :: _ => none
  | '"' :: rest => (readBasic (rest.length + 1) [] rest).map fun (key, rest) => (String.ofList key, rest)
  | '\'' :: rest => (readLiteral [] rest).map fun (key, rest) => (String.ofList key, rest)
  | _ =>
      let key := source.takeWhile isBareKey
      if key.isEmpty then none else some (String.ofList key, source.drop key.length)

/-- A key is a path of parts with dots between them. The result holds the path to the last part
and that part. -/
def readKey : Nat → List String → List Char → Option (List String × String × List Char)
  | 0, _, _ => none
  | fuel + 1, path, source =>
      (readKeyPart (source.dropWhile isSpace)).bind fun (key, rest) =>
        match rest.dropWhile isSpace with
        | '.' :: rest => readKey fuel (path ++ [key]) rest
        | rest => some (path, key, rest)

/-- A comment goes to the end of its line and holds no control character. -/
def dropComment : List Char → Option (List Char)
  | [] => some []
  | '\n' :: rest => some ('\n' :: rest)
  | '\r' :: '\n' :: rest => some ('\r' :: '\n' :: rest)
  | c :: rest => if isControl c then none else dropComment rest

/-- Between the items of an array or an inline table stand spaces, line breaks and comments. -/
def dropBetween : Nat → List Char → Option (List Char)
  | 0, _ => none
  | fuel + 1, source =>
      match source.dropWhile isSpace with
      | '#' :: rest => (dropComment rest).bind (dropBetween fuel)
      | rest =>
          match dropNewline rest with
          | some rest => dropBetween fuel rest
          | none => some rest

def isScalarCharacter (c : Char) : Bool :=
  c.isAlphanum || c == '_' || c == '+' || c == '-' || c == '.' || c == ':'

/-- A word ends at the first character that cannot stand in one. A date may be followed by a space
and a time. -/
def takeWord (source : List Char) : List Char × List Char :=
  let word := source.takeWhile isScalarCharacter
  let rest := source.drop word.length
  match rest with
  | ' ' :: c :: _ =>
      if readDate word == some [] && c.isDigit then
        let time := (rest.drop 1).takeWhile isScalarCharacter
        (word ++ ' ' :: time, rest.drop (time.length + 1))
      else (word, rest)
  | _ => (word, rest)

/-- Arrays and inline tables nest at most this deep. -/
def depthLimit : Nat := 80

mutual

/-- This function reads a value. The fuel bounds the number of steps. -/
def readValue : Nat → Nat → List Char → Option (Value × List Char)
  | 0, _, _ => none
  | fuel + 1, depth, source =>
      match source with
      | '"' :: _ | '\'' :: _ =>
          (readQuoted source).map fun (text, rest) => (.text (String.ofList text), rest)
      | '[' :: rest => if depth < depthLimit then readItems fuel (depth + 1) [] rest else none
      | '\x7b' :: rest => if depth < depthLimit then readFields fuel (depth + 1) [] rest else none
      | _ =>
          let (word, rest) := takeWord source
          (scalar? word).map fun value => (value, rest)

/-- Items are separated by commas, and a comma may follow the last one. -/
def readItems : Nat → Nat → List Value → List Char → Option (Value × List Char)
  | 0, _, _, _ => none
  | fuel + 1, depth, items, source =>
      (dropBetween (source.length + 1) source).bind fun source =>
        match source with
        | ']' :: rest => some (.array items.reverse, rest)
        | _ =>
            (readValue fuel depth source).bind fun (value, rest) =>
              (dropBetween (rest.length + 1) rest).bind fun rest =>
                match rest with
                | ',' :: rest => readItems fuel depth (value :: items) rest
                | ']' :: rest => some (.array (value :: items).reverse, rest)
                | _ => none

/-- Fields are separated by commas, and a comma may follow the last one. -/
def readFields : Nat → Nat → Fields → List Char → Option (Value × List Char)
  | 0, _, _, _ => none
  | fuel + 1, depth, fields, source =>
      (dropBetween (source.length + 1) source).bind fun source =>
        match source with
        | '\x7d' :: rest => some (.table .inline fields, rest)
        | _ =>
            (readKey (source.length + 1) [] source).bind fun (path, key, rest) =>
              (expect '=' rest).bind fun rest =>
                (readValue fuel depth (rest.dropWhile isSpace)).bind fun (value, rest) =>
                  (insertAt path key value .header fields).bind fun fields =>
                    (dropBetween (rest.length + 1) rest).bind fun rest =>
                      match rest with
                      | ',' :: rest => readFields fuel depth fields rest
                      | '\x7d' :: rest => some (.table .inline fields, rest)
                      | _ => none

end

/-- A line ends after spaces and a comment. -/
def endLine (source : List Char) : Option (List Char) :=
  let source := source.dropWhile isSpace
  let source := match source with
    | '#' :: rest => dropComment rest
    | _ => some source
  source.bind fun rest =>
    match rest with
    | [] => some []
    | _ => dropNewline rest

/-- A header names a table in one or two pairs of brackets. The result tells whether there were
two. -/
def readHeader (source : List Char) : Option (Bool × List String × String × List Char) :=
  let (double, source) := match source with
    | '[' :: rest => (true, rest)
    | _ => (false, source)
  (readKey (source.length + 1) [] source).bind fun (path, key, rest) =>
    match double, rest with
    | false, ']' :: rest => some (false, path, key, rest)
    | true, ']' :: ']' :: rest => some (true, path, key, rest)
    | _, _ => none

/-- Each line is blank, a header, or a key with its value. The first list is the path of the last
header. -/
def readStatements : Nat → List String → Fields → List Char → Option Fields
  | 0, _, _, _ => none
  | fuel + 1, header, fields, source =>
      match source.dropWhile isSpace with
      | [] => some fields
      | '[' :: rest =>
          (readHeader rest).bind fun (double, path, key, rest) =>
            (endLine rest).bind fun rest =>
              (if double then appendTable path key fields else openTable path key fields).bind
                fun fields => readStatements fuel (path ++ [key]) fields rest
      | source =>
          match source with
          | '#' :: _ | '\n' :: _ | '\r' :: _ =>
              (endLine source).bind fun rest => readStatements fuel header fields rest
          | _ =>
              (readKey (source.length + 1) [] source).bind fun (path, key, rest) =>
                (expect '=' rest).bind fun rest =>
                  (readValue (rest.length + 2) 0 (rest.dropWhile isSpace)).bind fun (value, rest) =>
                    (endLine rest).bind fun rest =>
                      (insertUnder header path key value fields).bind fun fields =>
                        readStatements fuel header fields rest

/-- A byte order mark at the beginning is left out. -/
def dropMark : List Char → List Char
  | '\ufeff' :: rest => rest
  | source => source

/-- This function reads a file to the fields of its root table. -/
def parse? (source : String) : Option Fields :=
  let text := dropMark source.toList
  readStatements (text.length + 1) [] [] text

end OperationCheck.Toml
