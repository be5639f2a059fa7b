import OperationCheck.Json.Value
import OperationCheck.Text.Number

/-!
Reading numbers and quoted texts.
-/

namespace OperationCheck.Json

/-- The digits before a point have no zero in front. -/
def readWhole (source : List Char) : Option (List Char × List Char) :=
  match source.takeWhile Char.isDigit, source.dropWhile Char.isDigit with
  | [], _ => none
  | '0' :: _ :: _, _ => none
  | digits, rest => some (digits, rest)

/-- At least one digit stands behind a point. -/
def readFraction : List Char → Option (List Char × List Char)
  | '.' :: rest =>
      match rest.takeWhile Char.isDigit with
      | [] => none
      | digits => some ('.' :: digits, rest.dropWhile Char.isDigit)
  | rest => some ([], rest)

def takeSign : List Char → List Char × List Char
  | '+' :: rest => (['+'], rest)
  | '-' :: rest => (['-'], rest)
  | rest => ([], rest)

/-- At least one digit stands in an exponent. -/
def readExponent : List Char → Option (List Char × List Char)
  | [] => some ([], [])
  | c :: rest =>
      if c = 'e' ∨ c = 'E' then
        let (sign, rest) := takeSign rest
        match rest.takeWhile Char.isDigit with
        | [] => none
        | digits => some (c :: sign ++ digits, rest.dropWhile Char.isDigit)
      else some ([], c :: rest)

/-- A number is small enough for a floating-point number with 64 bits. -/
def readNumber (source : List Char) : Option (Value × List Char) := do
  let (sign, rest) := match source with
    | '-' :: rest => (['-'], rest)
    | rest => ([], rest)
  let (whole, rest) ← readWhole rest
  let (fraction, rest) ← readFraction rest
  let (exponent, rest) ← readExponent rest
  let digits := String.ofList (sign ++ whole ++ fraction ++ exponent)
  if Text.isFiniteNumber digits then some (.number digits, rest) else none

def hexDigit? (c : Char) : Option Nat :=
  if '0' ≤ c ∧ c ≤ '9' then some (c.toNat - 48)
  else if 'a' ≤ c ∧ c ≤ 'f' then some (c.toNat - 87)
  else if 'A' ≤ c ∧ c ≤ 'F' then some (c.toNat - 55)
  else none

/-- Four hexadecimal digits. -/
def readUnit : List Char → Option (Nat × List Char)
  | first :: second :: third :: fourth :: rest => do
      let first ← hexDigit? first
      let second ← hexDigit? second
      let third ← hexDigit? third
      let fourth ← hexDigit? fourth
      some (first * 4096 + second * 256 + third * 16 + fourth, rest)
  | _ => none

def isHighUnit (unit : Nat) : Bool := 0xD800 ≤ unit && unit ≤ 0xDBFF

def isLowUnit (unit : Nat) : Bool := 0xDC00 ≤ unit && unit ≤ 0xDFFF

/-- A character beyond the first plane is written as two units. -/
def readCode (source : List Char) : Option (Char × List Char) := do
  let (high, rest) ← readUnit source
  if isHighUnit high then
    match rest with
    | '\\' :: 'u' :: rest =>
        let (low, rest) ← readUnit rest
        if isLowUnit low then
          some (Char.ofNat (0x10000 + (high - 0xD800) * 0x400 + (low - 0xDC00)), rest)
        else none
    | _ => none
  else if isLowUnit high then none
  else some (Char.ofNat high, rest)

/-- This function reads what follows a backslash. -/
def readEscaped : List Char → Option (Char × List Char)
  | [] => none
  | c :: rest =>
      match c with
      | '"' => some ('"', rest)
      | '\\' => some ('\\', rest)
      | '/' => some ('/', rest)
      | 'b' => some ('\x08', rest)
      | 'f' => some ('\x0c', rest)
      | 'n' => some ('\n', rest)
      | 'r' => some ('\r', rest)
      | 't' => some ('\t', rest)
      | 'u' => readCode rest
      | _ => none

/-- A text ends at a quotation mark, and control characters are escaped. What was read is in reverse
order. -/
def readText : Nat → List Char → List Char → Option (String × List Char)
  | 0, _, _ => none
  | _ + 1, _, [] => none
  | fuel + 1, taken, c :: rest =>
      if c = '"' then some (String.ofList taken.reverse, rest)
      else if c = '\\' then
        match readEscaped rest with
        | some (escaped, rest) => readText fuel (escaped :: taken) rest
        | none => none
      else if c.toNat < 32 then none
      else readText fuel (c :: taken) rest

end OperationCheck.Json
