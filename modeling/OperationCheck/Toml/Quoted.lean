/-!
Quoted texts of a configuration file, on one line or on several ones.
-/

namespace OperationCheck.Toml

/-- A control character other than the tab cannot stand in a text. -/
def isControl (c : Char) : Bool := (c.toNat < 32 && c != '\t') || c.toNat == 127

def isSpace (c : Char) : Bool := c == ' ' || c == '\t'

def hexDigit? (c : Char) : Option Nat :=
  if '0' ≤ c ∧ c ≤ '9' then some (c.toNat - 48)
  else if 'a' ≤ c ∧ c ≤ 'f' then some (c.toNat - 87)
  else if 'A' ≤ c ∧ c ≤ 'F' then some (c.toNat - 55)
  else none

/-- A fixed number of hexadecimal digits names a character. -/
def readCode : Nat → Nat → List Char → Option (Char × List Char)
  | 0, value, source => if value.isValidChar then some (Char.ofNat value, source) else none
  | _ + 1, _, [] => none
  | count + 1, value, c :: rest =>
      (hexDigit? c).bind fun digit => readCode count (16 * value + digit) rest

/-- This function reads what follows a backslash. -/
def readEscaped : List Char → Option (Char × List Char)
  | [] => none
  | c :: rest =>
      match c with
      | 'b' => some ('\x08', rest)
      | 't' => some ('\t', rest)
      | 'n' => some ('\n', rest)
      | 'f' => some ('\x0c', rest)
      | 'r' => some ('\r', rest)
      | 'e' => some ('\x1b', rest)
      | '"' => some ('"', rest)
      | '\\' => some ('\\', rest)
      | 'x' => readCode 2 0 rest
      | 'u' => readCode 4 0 rest
      | 'U' => readCode 8 0 rest
      | _ => none

/-- A basic text on one line ends at a quotation mark. The text read so far is in reverse
order. -/
def readBasic : Nat → List Char → List Char → Option (List Char × List Char)
  | 0, _, _ => none
  | _ + 1, _, [] => none
  | fuel + 1, taken, c :: rest =>
      if c = '"' then some (taken.reverse, rest)
      else if c = '\\' then
        (readEscaped rest).bind fun (escaped, rest) => readBasic fuel (escaped :: taken) rest
      else if isControl c then none
      else readBasic fuel (c :: taken) rest

/-- A literal text on one line has no escapes. -/
def readLiteral (taken : List Char) : List Char → Option (List Char × List Char)
  | [] => none
  | c :: rest =>
      if c = '\'' then some (taken.reverse, rest)
      else if isControl c then none
      else readLiteral (c :: taken) rest

/-- A line break is a line feed, possibly behind a carriage return. -/
def dropNewline : List Char → Option (List Char)
  | '\n' :: rest => some rest
  | '\r' :: '\n' :: rest => some rest
  | _ => none

/-- A line break right behind the opening marks does not belong to the text. -/
def dropFirstNewline (source : List Char) : List Char := (dropNewline source).getD source

/-- Spaces and line breaks behind a backslash at the end of a line are left out. -/
def dropContinuation : List Char → List Char
  | [] => []
  | c :: rest => if isSpace c || c == '\n' || c == '\r' then dropContinuation rest else c :: rest

/-- A backslash ends a line when only spaces stand between it and the line break. -/
def continuation? (source : List Char) : Option (List Char) :=
  (dropNewline (source.dropWhile isSpace)).map dropContinuation

/-- Up to two quotation marks may stand right before the three that close a text. -/
def closeMarks (mark : Char) (taken source : List Char) : Option (List Char × List Char) :=
  match source with
  | first :: second :: rest =>
      if first = mark ∧ second = mark then some ((mark :: mark :: taken).reverse, rest)
      else if first = mark then some ((mark :: taken).reverse, second :: rest)
      else some (taken.reverse, source)
  | [first] => if first = mark then some ((mark :: taken).reverse, []) else some (taken.reverse, source)
  | [] => some (taken.reverse, [])

/-- A text on several lines ends at three marks. Escapes are read only in basic texts. -/
def readLines (mark : Char) : Nat → List Char → List Char → Option (List Char × List Char)
  | 0, _, _ => none
  | _ + 1, _, [] => none
  | fuel + 1, taken, c :: rest =>
      if c = mark then
        match rest with
        | second :: third :: more =>
            if second = mark ∧ third = mark then closeMarks mark taken more
            else readLines mark fuel (c :: taken) rest
        | _ => none
      else if c = '\\' ∧ mark = '"' then
        match continuation? rest with
        | some rest => readLines mark fuel taken rest
        | none => (readEscaped rest).bind fun (escaped, rest) =>
            readLines mark fuel (escaped :: taken) rest
      else if c = '\n' then readLines mark fuel (c :: taken) rest
      else if c = '\r' then
        match rest with
        | '\n' :: rest => readLines mark fuel ('\n' :: c :: taken) rest
        | _ => none
      else if isControl c then none
      else readLines mark fuel (c :: taken) rest

/-- A quoted text begins with one mark or with three. -/
def readQuoted (source : List Char) : Option (List Char × List Char) :=
  match source with
  | '"' :: '"' :: '"' :: rest => readLines '"' (rest.length + 1) [] (dropFirstNewline rest)
  | '\'' :: '\'' :: '\'' :: rest => readLines '\'' (rest.length + 1) [] (dropFirstNewline rest)
  | '"' :: rest => readBasic (rest.length + 1) [] rest
  | '\'' :: rest => readLiteral [] rest
  | _ => none

end OperationCheck.Toml
