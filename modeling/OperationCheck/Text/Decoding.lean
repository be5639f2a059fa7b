/-!
Texts from bytes that may be damaged. The longest part of a damaged character is replaced by one
mark, and reading goes on behind it.
-/

namespace OperationCheck.Text

/-- The mark that stands for a damaged character. -/
def replacement : Char := Char.ofNat 0xFFFD

/-- The first byte of a longer character tells how many bytes follow, which value they continue,
and in which range the next byte is. -/
def readLead (byte : Nat) : Option (Nat × Nat × Nat × Nat) :=
  if 0xC2 ≤ byte ∧ byte ≤ 0xDF then some (1, byte - 0xC0, 0x80, 0xBF)
  else if byte = 0xE0 then some (2, 0, 0xA0, 0xBF)
  else if byte = 0xED then some (2, 0xD, 0x80, 0x9F)
  else if 0xE1 ≤ byte ∧ byte ≤ 0xEF then some (2, byte - 0xE0, 0x80, 0xBF)
  else if byte = 0xF0 then some (3, 0, 0x90, 0xBF)
  else if byte = 0xF4 then some (3, 4, 0x80, 0x8F)
  else if 0xF1 ≤ byte ∧ byte ≤ 0xF3 then some (3, byte - 0xF0, 0x80, 0xBF)
  else none

/-- Bytes are taken as long as they continue a character. -/
def readContinuation : Nat → Nat → Nat → Nat → List UInt8 → Option Nat × List UInt8
  | 0, value, _, _, bytes => (some value, bytes)
  | _ + 1, _, _, _, [] => (none, [])
  | count + 1, value, low, high, byte :: rest =>
      if low ≤ byte.toNat ∧ byte.toNat ≤ high then
        readContinuation count (value * 64 + (byte.toNat - 0x80)) 0x80 0xBF rest
      else (none, byte :: rest)

/-- This function decodes one character. -/
def decodeNext (byte : UInt8) (rest : List UInt8) : Char × List UInt8 :=
  if byte.toNat < 0x80 then (Char.ofNat byte.toNat, rest)
  else
    match readLead byte.toNat with
    | none => (replacement, rest)
    | some (count, value, low, high) =>
        match readContinuation count value low high rest with
        | (some code, rest) => (Char.ofNat code, rest)
        | (none, rest) => (replacement, rest)

def decodeDamaged : Nat → List UInt8 → List Char
  | 0, _ => []
  | _ + 1, [] => []
  | fuel + 1, byte :: rest =>
      let (c, rest) := decodeNext byte rest
      c :: decodeDamaged fuel rest

/-- Bytes that are not damaged are read as they are. -/
def decode (bytes : ByteArray) : String :=
  match String.fromUTF8? bytes with
  | some text => text
  | none => String.ofList (decodeDamaged bytes.size bytes.toList)

end OperationCheck.Text
