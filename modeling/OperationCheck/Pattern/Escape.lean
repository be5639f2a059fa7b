import OperationCheck.Pattern.Basic
import OperationCheck.Pattern.Flags
import OperationCheck.Unicode.Lookup

/-!
Escapes: a backslash followed by the name of a character, of a set, or of an assertion.
-/

namespace OperationCheck.Pattern

/-- An escape stands for a character, a set or an assertion. A character that is written as a
byte is remembered as such. -/
inductive Escape where
  | literal (c : Char) (byte : Bool)
  | set (set : CharSet)
  | condition (condition : Assertion)

def isMeta (c : Char) : Bool := "\\.+*?()|[]\x7b\x7d^$#&-~".contains c

/-- Any ASCII character that is neither a letter nor a digit may be escaped, but not an angle
bracket. -/
def isEscapable (c : Char) : Bool :=
  isMeta c || (c.toNat < 128 && !c.isAlphanum && c != '<' && c != '>')

def hexValue? (c : Char) : Option Nat :=
  if '0' ≤ c ∧ c ≤ '9' then some (c.toNat - 48)
  else if 'a' ≤ c ∧ c ≤ 'f' then some (c.toNat - 87)
  else if 'A' ≤ c ∧ c ≤ 'F' then some (c.toNat - 55)
  else none

/-- A number that is no code point of a character names none. -/
def characterOf? (point : Nat) : Option Char :=
  if point.isValidChar then some (Char.ofNat point) else none

/-- This function reads a fixed number of hexadecimal digits. -/
def readHexDigits (flags : Flags) : Nat → Nat → List Char → Option (Nat × List Char)
  | 0, value, source => some (value, source)
  | count + 1, value, source =>
      match source with
      | [] => none
      | c :: rest => (hexValue? c).bind fun digit =>
          readHexDigits flags count (16 * value + digit) (flags.skip rest)

/-- The text between braces ends at the first closing brace. -/
def readBraced (flags : Flags) : Nat → List Char → List Char → Option (List Char × List Char)
  | 0, _, _ => none
  | fuel + 1, taken, source =>
      match flags.skip source with
      | [] => none
      | '\x7d' :: rest => some (taken.reverse, rest)
      | c :: rest => readBraced flags fuel (c :: taken) rest

/-- Digits in braces are at least one and name a character. -/
def hexNumber? (digits : List Char) : Option Nat :=
  if digits.isEmpty then none
  else digits.foldl (fun value c => value.bind fun value =>
    (hexValue? c).map fun digit => min (16 * value + digit) 0x110000) (some 0)

/-- A hexadecimal escape has a fixed number of digits, or any number of them in braces. -/
def readHex (flags : Flags) (count : Nat) (source : List Char) : Option (Char × List Char) :=
  match flags.skip source with
  | '\x7b' :: rest =>
      (readBraced flags (rest.length + 1) [] rest).bind fun (digits, rest) =>
        ((hexNumber? digits).bind characterOf?).map fun c => (c, flags.skip rest)
  | source =>
      (readHexDigits flags count 0 source).bind fun (value, rest) =>
        (characterOf? value).map fun c => (c, rest)

def asciiDigits : CharSet := .ranges [(48, 57)]

def asciiBlanks : CharSet := .ranges [(9, 13), (32, 32)]

def asciiWords : CharSet := .ranges [(48, 57), (65, 90), (95, 95), (97, 122)]

def digits : CharSet := .ranges (((Unicode.named? Unicode.categories "nd").map (·.ranges)).getD [])

def blanks : CharSet :=
  .ranges [(9, 13), (32, 32), (0x85, 0x85), (0xA0, 0xA0), (0x1680, 0x1680), (0x2000, 0x200A),
    (0x2028, 0x2029), (0x202F, 0x202F), (0x205F, 0x205F), (0x3000, 0x3000)]

def words : CharSet := .ranges Unicode.wordRanges

/-- Without Unicode, the complement of a set would accept bytes that are no text. -/
def Flags.negate (flags : Flags) (negated : Bool) (set : CharSet) : Option CharSet :=
  if !negated then some set
  else if flags.unicode then some (.complement set)
  else none

/-- When case is ignored, a set also holds the case variants of its members. -/
def Flags.fold (flags : Flags) (set : CharSet) : CharSet :=
  if !flags.caseless then set
  else if flags.unicode then .caseless set
  else .caselessAscii set

/-- The letters `d`, `s` and `w` name sets, and their capitals the complements. -/
def namedSet? (flags : Flags) (c : Char) : Option (Option CharSet) :=
  let pick (unicode ascii : CharSet) := if flags.unicode then unicode else ascii
  match c with
  | 'd' => some (some (pick digits asciiDigits))
  | 's' => some (some (pick blanks asciiBlanks))
  | 'w' => some (some (pick words asciiWords))
  | 'D' => some (flags.negate true (pick digits asciiDigits))
  | 'S' => some (flags.negate true (pick blanks asciiBlanks))
  | 'W' => some (flags.negate true (pick words asciiWords))
  | _ => none

/-- The first sign that separates a name from a value splits a text. -/
def splitAt? (sign : List Char) : List Char → Option (List Char × List Char)
  | [] => none
  | c :: rest =>
      if sign.isPrefixOf (c :: rest) then some ([], (c :: rest).drop sign.length)
      else (splitAt? sign rest).map fun (name, value) => (c :: name, value)

/-- A property is named alone, or with a value that it has or has not. -/
def propertySet? (flags : Flags) (negated : Bool) (name : List Char) : Option CharSet :=
  if !flags.unicode then none
  else
    let found := match splitAt? ['!', '='] name with
      | some (name, value) => (Unicode.propertyWithValue? name value).map fun set => (set, !negated)
      | none =>
          match (splitAt? [':'] name).or (splitAt? ['='] name) with
          | some (name, value) => (Unicode.propertyWithValue? name value).map fun set => (set, negated)
          | none => (Unicode.propertyNamed? name).map fun set => (set, negated)
    found.bind fun (set, negated) => flags.negate negated (flags.fold (.ranges set))

/-- A property is one letter, or a name in braces. -/
def readProperty (flags : Flags) (negated : Bool) (source : List Char) :
    Option (CharSet × List Char) :=
  match flags.skip source with
  | [] => none
  | '\\' :: _ => none
  | '\x7b' :: rest =>
      (readBraced flags (rest.length + 1) [] rest).bind fun (name, rest) =>
        (propertySet? flags negated name).map fun set => (set, rest)
  | c :: rest => (propertySet? flags negated [c]).map fun set => (set, flags.skip rest)

def isBoundaryLetter (c : Char) : Bool := c.isAlpha || c == '-'

/-- The name of a boundary holds letters and hyphens. -/
def readBoundaryName (flags : Flags) : Nat → List Char → List Char → List Char × List Char
  | 0, taken, source => (taken.reverse, source)
  | fuel + 1, taken, source =>
      match source with
      | c :: rest =>
          if isBoundaryLetter c then readBoundaryName flags fuel (c :: taken) (flags.skip rest)
          else (taken.reverse, source)
      | [] => (taken.reverse, [])

/-- Braces behind a word boundary name its side, unless they begin with no letter: then they are
a repetition. -/
def readBoundary (flags : Flags) (source : List Char) : Option (Assertion × List Char) :=
  let ascii := !flags.unicode
  match source with
  | '\x7b' :: rest =>
      match flags.skip rest with
      | [] => none
      | c :: more =>
          if isBoundaryLetter c then
            let (name, remaining) := readBoundaryName flags (more.length + 1) [] (c :: more)
            match remaining with
            | '\x7d' :: after =>
                if name = "start".toList then some (.wordStart ascii, after)
                else if name = "end".toList then some (.wordEnd ascii, after)
                else if name = "start-half".toList then some (.wordStartHalf ascii, after)
                else if name = "end-half".toList then some (.wordEndHalf ascii, after)
                else none
            | _ => none
          else some (.wordBoundary ascii, source)
  | _ => some (.wordBoundary ascii, source)

/-- This function reads what follows a backslash. -/
def readEscape (flags : Flags) : List Char → Option (Escape × List Char)
  | [] => none
  | c :: rest =>
      let ascii := !flags.unicode
      let literal (c : Char) : Option (Escape × List Char) := some (.literal c false, rest)
      let condition (condition : Assertion) : Option (Escape × List Char) :=
        some (.condition condition, rest)
      match namedSet? flags c with
      | some set => set.map fun set => (.set set, rest)
      | none =>
          if isEscapable c then literal c
          else match c with
            | 'x' => (readHex flags 2 rest).map fun (c, rest) => (.literal c true, rest)
            | 'u' => (readHex flags 4 rest).map fun (c, rest) => (.literal c false, rest)
            | 'U' => (readHex flags 8 rest).map fun (c, rest) => (.literal c false, rest)
            | 'p' => (readProperty flags false rest).map fun (set, rest) => (.set set, rest)
            | 'P' => (readProperty flags true rest).map fun (set, rest) => (.set set, rest)
            | 'a' => literal '\x07'
            | 'f' => literal '\x0c'
            | 't' => literal '\t'
            | 'n' => literal '\n'
            | 'r' => literal '\r'
            | 'v' => literal '\x0b'
            | 'A' => condition .textStart
            | 'z' => condition .textEnd
            | 'b' => (readBoundary flags rest).map fun (boundary, rest) => (.condition boundary, rest)
            | 'B' => condition (.notWordBoundary ascii)
            | '<' => condition (.wordStart ascii)
            | '>' => condition (.wordEnd ascii)
            | _ => none

/-- A literal is a set of one character and its case variants. Without Unicode, a byte beyond
ASCII is no text. -/
def Flags.literalSet (flags : Flags) (c : Char) (byte : Bool) : Option CharSet :=
  if !flags.unicode && byte && 128 ≤ c.toNat && c.toNat ≤ 255 then none
  else some (flags.fold (.single c))

end OperationCheck.Pattern
