/-!
Limits of numbers. A number is read exactly from its digits.
-/

namespace OperationCheck.Text

/-- Integers have 32 bits and a sign. -/
def isSmallInteger (digits : String) : Bool :=
  match digits.toInt? with
  | some value => -2147483648 ≤ value && value ≤ 2147483647
  | none => false

/-- A number is its digits without a point, times a power of ten. -/
structure Scaled where
  digits : Nat
  exponent : Int
deriving Repr, DecidableEq

def naturalOf (digits : List Char) : Nat :=
  digits.foldl (fun value digit => value * 10 + (digit.toNat - '0'.toNat)) 0

def integerOf : List Char → Int
  | '-' :: digits => - (naturalOf digits : Int)
  | '+' :: digits => naturalOf digits
  | digits => naturalOf digits

/-- The sign of a number takes no part in its size. -/
def Scaled.parse (text : String) : Scaled :=
  let unsigned := text.toList.dropWhile (· == '-')
  let whole := unsigned.takeWhile Char.isDigit
  let rest := unsigned.drop whole.length
  let fraction := match rest with
    | '.' :: rest => rest.takeWhile Char.isDigit
    | _ => []
  let exponent := match rest.dropWhile fun c => c != 'e' && c != 'E' with
    | _ :: exponent => integerOf exponent
    | [] => 0
  ⟨naturalOf (whole ++ fraction), exponent - fraction.length⟩

/-- From here on, the nearest number with 64 bits is infinite. -/
def infiniteFrom : Nat := 1 <<< 1024 - 1 <<< 970

/-- A number with more than 310 digits before its point is too large, and one with fewer than 300 is
not. -/
def Scaled.isFinite (number : Scaled) : Bool :=
  if number.digits = 0 then true
  else
    let size : Int := (Nat.toDigits 10 number.digits).length + number.exponent
    if 310 < size then false
    else if size < 300 then true
    else if 0 ≤ number.exponent then
      number.digits * Nat.pow 10 number.exponent.toNat < infiniteFrom
    else number.digits < infiniteFrom * Nat.pow 10 (-number.exponent).toNat

def isFiniteNumber (text : String) : Bool := (Scaled.parse text).isFinite

end OperationCheck.Text
