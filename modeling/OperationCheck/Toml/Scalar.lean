import OperationCheck.Text.Number
import OperationCheck.Toml.Value

/-!
Numbers, truth values and dates. Each is a word, and its characters alone decide what it is.
-/

namespace OperationCheck.Toml

/-- Digits may be separated by single underscores. The first argument tells whether a digit comes
right before. -/
def digitsOnly (isDigit : Char → Bool) : Bool → List Char → Bool
  | afterDigit, [] => afterDigit
  | afterDigit, c :: rest =>
      if c = '_' then afterDigit && digitsOnly isDigit false rest
      else isDigit c && digitsOnly isDigit true rest

def isDigits (word : List Char) : Bool := digitsOnly Char.isDigit false word

/-- A number of more than one digit does not begin with zero. -/
def isWhole (word : List Char) : Bool :=
  isDigits word && (word.length ≤ 1 || word.head? != some '0')

def dropSign : List Char → Bool × List Char
  | '+' :: rest => (false, rest)
  | '-' :: rest => (true, rest)
  | word => (false, word)

def valueIn (base : Nat) (word : List Char) : Nat :=
  (word.filter (· ≠ '_')).foldl (fun value c =>
    base * value + (if c.isDigit then c.toNat - 48 else c.toLower.toNat - 87)) 0

/-- Whole numbers end before this one. -/
def integersEnd : Nat := 1 <<< 128

/-- This is the greatest whole number that a minus sign may stand before. -/
def greatestNegated : Nat := 1 <<< 127

/-- Whole numbers have 128 bits, and one of them is the sign of a negative number. -/
def isInteger (word : List Char) : Bool :=
  match word with
  | '0' :: 'x' :: digits =>
      digitsOnly (fun c => c.isDigit || ('a' ≤ c.toLower && c.toLower ≤ 'f')) false digits
        && valueIn 16 digits < integersEnd
  | '0' :: 'o' :: digits =>
      digitsOnly (fun c => '0' ≤ c && c ≤ '7') false digits && valueIn 8 digits < integersEnd
  | '0' :: 'b' :: digits =>
      digitsOnly (fun c => c == '0' || c == '1') false digits && valueIn 2 digits < integersEnd
  | _ =>
      let (negative, digits) := dropSign word
      isWhole digits &&
        (if negative then valueIn 10 digits ≤ greatestNegated else valueIn 10 digits < integersEnd)

/-- A decimal number must be finite when it is rounded to 64 bits. -/
def isTooLarge (digits : List Char) (exponent : Int) : Bool :=
  !Text.Scaled.isFinite ⟨valueIn 10 digits, exponent⟩

/-- A number with a fraction, an exponent or both is a decimal number. -/
def isDecimal (word : List Char) : Bool :=
  let (_, unsigned) := dropSign word
  if unsigned = "inf".toList ∨ unsigned = "nan".toList then true
  else
    let whole := unsigned.takeWhile fun c => c != '.' && c != 'e' && c != 'E'
    let rest := unsigned.drop whole.length
    let (fraction, hasFraction, rest) := match rest with
      | '.' :: rest =>
          let fraction := rest.takeWhile fun c => c != 'e' && c != 'E'
          (fraction, true, rest.drop fraction.length)
      | rest => ([], false, rest)
    let (exponent, hasExponent) := match rest with
      | _ :: rest => (rest, true)
      | [] => ([], false)
    let (negative, power) := dropSign exponent
    let shift : Int := if negative then -(valueIn 10 power : Int) else valueIn 10 power
    isWhole whole && (!hasFraction || isDigits fraction) && (!hasExponent || isDigits power)
      && (hasFraction || hasExponent)
      && !isTooLarge (whole ++ fraction) (shift - (fraction.filter (· ≠ '_')).length)

/-- A field of a date has a fixed number of digits. -/
def readField (count : Nat) (word : List Char) : Option (Nat × List Char) :=
  let digits := word.take count
  if digits.length = count && digits.all Char.isDigit then
    some (digits.foldl (fun value c => 10 * value + (c.toNat - 48)) 0, word.drop count)
  else none

def daysIn (year month : Nat) : Nat :=
  if month = 2 then
    if year % 4 = 0 ∧ (year % 100 ≠ 0 ∨ year % 400 = 0) then 29 else 28
  else if [4, 6, 9, 11].contains month then 30
  else 31

def expect (c : Char) : List Char → Option (List Char)
  | [] => none
  | first :: rest => if first = c then some rest else none

/-- A date has a year, a month and a day of that month. -/
def readDate (word : List Char) : Option (List Char) := do
  let (year, word) ← readField 4 word
  let (month, word) ← readField 2 (← expect '-' word)
  let (day, word) ← readField 2 (← expect '-' word)
  if 1 ≤ month && month ≤ 12 && 1 ≤ day && day ≤ daysIn year month then some word else none

/-- A fraction of a second has at least one digit. -/
def readFraction : List Char → Option (List Char)
  | '.' :: rest => if rest.head?.any Char.isDigit then some (rest.dropWhile Char.isDigit) else none
  | word => some word

/-- A time has an hour and a minute, and may have seconds with a fraction. -/
def readTime (word : List Char) : Option (List Char) := do
  let (hour, word) ← readField 2 word
  let (minute, word) ← readField 2 (← expect ':' word)
  if hour > 23 || minute > 59 then none
  else
    match word with
    | ':' :: rest =>
        let (second, rest) ← readField 2 rest
        if second > 60 then none else readFraction rest
    | _ => some word

/-- An offset is zero, or a signed number of hours and minutes. -/
def readOffset : List Char → Option (List Char)
  | 'Z' :: rest => some rest
  | 'z' :: rest => some rest
  | c :: rest =>
      if c = '+' ∨ c = '-' then do
        let (hours, rest) ← readField 2 rest
        let (minutes, rest) ← readField 2 (← expect ':' rest)
        if hours ≤ 23 && minutes ≤ 59 then some rest else none
      else none
  | [] => none

/-- A moment is a time, a date, or both with a letter or a space between them and possibly an
offset at the end. -/
def isMoment (word : List Char) : Bool :=
  readTime word == some [] ||
    match readDate word with
    | none => false
    | some [] => true
    | some (separator :: rest) =>
        (separator == 'T' || separator == 't' || separator == ' ') &&
          match readTime rest with
          | none => false
          | some [] => true
          | some rest => readOffset rest == some []

/-- This function decides what a word is. -/
def scalar? (word : List Char) : Option Value :=
  if word = "true".toList ∨ word = "false".toList then some .truth
  else if isInteger word || isDecimal word then some .number
  else if isMoment word then some .moment
  else none

end OperationCheck.Toml
