import OperationCheck.Language.Fault

/-!
Tokens. A source is cut into tokens, faults and what stands between them. The cut goes from left
to right, and each piece has at least one character.
-/

namespace OperationCheck.Language

/-- A mark is a single character. A string is kept as it is written. -/
inductive TokenKind where
  | mark (c : Char)
  | spread
  | name
  | text
  | int
  | float
  | stop
deriving Repr, DecidableEq

structure Token where
  kind : TokenKind
  text : String
  place : Nat
deriving Repr, DecidableEq

/-- A piece of a source is a token, a fault or nothing that counts. -/
inductive PieceKind where
  | token (kind : TokenKind)
  | fault (fault : SyntaxFault)
  | nothing
deriving Repr, DecidableEq

/-- A piece has a number of characters. -/
structure Piece where
  kind : PieceKind
  length : Nat
deriving Repr, DecidableEq

def marks : List Char := "!$&():=@[]\x7b|\x7d".toList

/-- Blanks, line breaks, byte order marks and commas separate tokens. -/
def isSeparator (c : Char) : Bool := "\t\n\r ,\ufeff".toList.contains c

def isNameStart (c : Char) : Bool := c.isAlpha || c == '_'

def isNamePart (c : Char) : Bool := c.isAlphanum || c == '_'

def isLineBreak (c : Char) : Bool := c == '\n' || c == '\r'

def isHexDigit (c : Char) : Bool :=
  c.isDigit || ('a' ≤ c && c ≤ 'f') || ('A' ≤ c && c ≤ 'F')

def hexValue (c : Char) : Nat :=
  if c.isDigit then c.toNat - '0'.toNat
  else if 'a' ≤ c then c.toNat - 'a'.toNat + 10
  else c.toNat - 'A'.toNat + 10

def codeOf (digits : List Char) : Nat :=
  digits.foldl (fun code digit => code * 16 + hexValue digit) 0

/-- Strings -/
inductive StringMode where
  | plain
  | escape
  | code (digits : List Char)
  | braced (digits : List Char)
  | half
  | halfEscape
deriving Repr, DecidableEq

def simpleEscapes : List Char := "\"\\/bfnrt".toList

/-- A code of four digits may be the first half of a pair. A second half without a first one is no
character. -/
def afterCode (code : Nat) (second : Bool) : StringMode × Option SyntaxFault :=
  if 0xD800 ≤ code ∧ code < 0xDC00 ∧ !second then (.half, none)
  else if 0xDC00 ≤ code ∧ code < 0xE000 then
    (.plain, if second then none else some .surrogateCode)
  else (.plain, if second then some .surrogateCode else none)

/-- This function reads a string behind its opening quote. The last fault within it is the fault
of the whole string. The flag tells whether the second half of a pair is being read. -/
def stringPiece (mode : StringMode) (second : Bool) (fault : Option SyntaxFault) (length : Nat) :
    List Char → Piece
  | [] => ⟨.fault .unfinishedString, length⟩
  | c :: rest =>
      let finish (fault : Option SyntaxFault) : Piece :=
        match fault with
        | some fault => ⟨.fault fault, length + 1⟩
        | none => ⟨.token .text, length + 1⟩
      match mode with
      | .plain =>
          if c = '"' then finish fault
          else if isLineBreak c then
            stringPiece .plain false (some .lineBreakInString) (length + 1) rest
          else if c = '\\' then stringPiece .escape false fault (length + 1) rest
          else stringPiece .plain false fault (length + 1) rest
      | .escape =>
          if simpleEscapes.contains c then stringPiece .plain false fault (length + 1) rest
          else if c = 'u' then stringPiece (.code []) second fault (length + 1) rest
          else stringPiece .plain false (some .unknownEscape) (length + 1) rest
      | .code digits =>
          if c = '"' then finish (some .shortCode)
          else if digits.isEmpty && c == '\x7b' then
            stringPiece (.braced []) second fault (length + 1) rest
          else if !isHexDigit c then
            stringPiece .plain false (some .invalidCode) (length + 1) rest
          else if digits.length < 3 then
            stringPiece (.code (digits ++ [c])) second fault (length + 1) rest
          else
            let (mode, found) := afterCode (codeOf (digits ++ [c])) second
            stringPiece mode (mode == .half) (found.or fault) (length + 1) rest
      | .braced digits =>
          if c = '"' then finish (some .shortCode)
          else if c = '\x7d' then
            let code := codeOf digits
            let found :=
              if digits.isEmpty ∨ 0x10FFFF < code then some SyntaxFault.invalidCode
              else if 0xD800 ≤ code ∧ code < 0xE000 then some .surrogateCode
              else none
            stringPiece .plain false (found.or fault) (length + 1) rest
          else if !isHexDigit c then
            stringPiece .plain false (some .invalidCode) (length + 1) rest
          else stringPiece (.braced (digits ++ [c])) second fault (length + 1) rest
      | .half =>
          if c = '\\' then stringPiece .halfEscape second fault (length + 1) rest
          else if c = '"' then finish (some .surrogateCode)
          else stringPiece .plain false (some .surrogateCode) (length + 1) rest
      | .halfEscape =>
          if c = 'u' then stringPiece (.code []) true fault (length + 1) rest
          else stringPiece .plain false (some .surrogateCode) (length + 1) rest

/-- This function reads a block string behind its three opening quotes. A backslash keeps the
quotes behind it from closing the block. -/
def blockPiece (length : Nat) : List Char → Piece
  | [] => ⟨.fault .unfinishedString, length⟩
  | '"' :: '"' :: '"' :: _ => ⟨.token .text, length + 3⟩
  | '\\' :: '"' :: '"' :: '"' :: rest => blockPiece (length + 4) rest
  | '\\' :: '"' :: '"' :: rest => blockPiece (length + 3) rest
  | '\\' :: '"' :: rest => blockPiece (length + 2) rest
  | _ :: rest => blockPiece (length + 1) rest

/-- A string begins with one quote or with three. -/
def quotePiece : List Char → Piece
  | [] => ⟨.fault .unbegunString, 1⟩
  | ['"'] => ⟨.token .text, 2⟩
  | '"' :: '"' :: rest => blockPiece 3 rest
  | '"' :: _ => ⟨.token .text, 2⟩
  | rest => stringPiece .plain false none 1 rest

/-- Behind a float comes no further point and no letter. -/
def floatEnd (length : Nat) : List Char → Piece
  | c :: _ =>
      if c = '.' ∨ isNameStart c then ⟨.fault (.floatSuffix c), length + 1⟩
      else ⟨.token .float, length⟩
  | [] => ⟨.token .float, length⟩

def exponentDigits (length : Nat) (source : List Char) : Piece :=
  let digits := source.takeWhile Char.isDigit
  floatEnd (length + digits.length) (source.drop digits.length)

/-- An exponent has a digit behind its sign. -/
def signedExponent (length : Nat) : List Char → Piece
  | [] => ⟨.fault .unfinishedFloat, length⟩
  | c :: rest =>
      if c.isDigit then exponentDigits (length + 1) rest
      else ⟨.fault (.noExponentDigit c), length + 1⟩

def exponentPiece (length : Nat) : List Char → Piece
  | [] => ⟨.fault .unfinishedFloat, length⟩
  | c :: rest =>
      if c.isDigit then exponentDigits (length + 1) rest
      else if c = '+' ∨ c = '-' then signedExponent (length + 1) rest
      else ⟨.fault (.noExponent c), length + 1⟩

def afterFraction (length : Nat) : List Char → Piece
  | c :: rest =>
      if c = 'e' ∨ c = 'E' then exponentPiece (length + 1) rest else floatEnd length (c :: rest)
  | [] => ⟨.token .float, length⟩

/-- A fraction has a digit behind the point. -/
def fractionPiece (length : Nat) : List Char → Piece
  | [] => ⟨.fault .unfinishedFloat, length⟩
  | c :: rest =>
      if c.isDigit then
        let digits := rest.takeWhile Char.isDigit
        afterFraction (length + 1 + digits.length) (rest.drop digits.length)
      else ⟨.fault (.noFraction c), length + 1⟩

/-- Behind the digits of an integer may come a fraction or an exponent. -/
def afterInteger (length : Nat) : List Char → Piece
  | [] => ⟨.token .int, length⟩
  | c :: rest =>
      if c = '.' then fractionPiece (length + 1) rest
      else if c = 'e' ∨ c = 'E' then exponentPiece (length + 1) rest
      else if isNameStart c then ⟨.fault (.integerSuffix c), length + 1⟩
      else ⟨.token .int, length⟩

/-- An integer that begins with a zero has no other digit. -/
def digitsPiece (length : Nat) (first : Char) (rest : List Char) : Piece :=
  if first = '0' then
    match rest with
    | c :: _ =>
        if c.isDigit then ⟨.fault .leadingZero, length + 1⟩ else afterInteger length rest
    | [] => ⟨.token .int, length⟩
  else
    let digits := rest.takeWhile Char.isDigit
    afterInteger (length + digits.length) (rest.drop digits.length)

def minusPiece : List Char → Piece
  | [] => ⟨.fault (.unknownCharacter '-'), 1⟩
  | c :: rest =>
      if c.isDigit then digitsPiece 2 c rest else ⟨.fault (.loneMinus c), 2⟩

def dotPiece : List Char → Piece
  | '.' :: '.' :: _ => ⟨.token .spread, 3⟩
  | _ :: _ => ⟨.fault .unfinishedSpread, 2⟩
  | [] => ⟨.fault .unfinishedSpread, 1⟩

/-- This function finds the piece that begins with a character. -/
def pieceOf (c : Char) (rest : List Char) : Piece :=
  if isSeparator c then ⟨.nothing, 1⟩
  else if c = '#' then ⟨.nothing, 1 + (rest.takeWhile fun c => !isLineBreak c).length⟩
  else if marks.contains c then ⟨.token (.mark c), 1⟩
  else if isNameStart c then ⟨.token .name, 1 + (rest.takeWhile isNamePart).length⟩
  else if c.isDigit then digitsPiece 1 c rest
  else if c = '-' then minusPiece rest
  else if c = '.' then dotPiece rest
  else if c = '"' then quotePiece rest
  else ⟨.fault (.unknownCharacter c), 1⟩

/-- The number of bytes that encode a text. -/
def byteLength (text : List Char) : Nat := text.foldl (fun count c => count + c.utf8Size) 0

/-- The last token stands for the end of the source. -/
def stopToken (place : Nat) : Token := ⟨.stop, "EOF", place⟩

/-- This function cuts a source into its tokens and its faults. -/
def cut (place : Nat) : List Char → List (Token ⊕ (Nat × SyntaxFault))
  | [] => [.inl (stopToken place)]
  | c :: rest =>
      let piece := pieceOf c rest
      let text := c :: rest.take (piece.length - 1)
      let others := cut (place + byteLength text) (rest.drop (piece.length - 1))
      match piece.kind with
      | .token kind => .inl ⟨kind, String.ofList text, place⟩ :: others
      | .fault fault => .inr (place, fault) :: others
      | .nothing => others
termination_by source => source.length
decreasing_by simp only [List.length_drop, List.length_cons]; omega

/-- The tokens of a source are in the order in which they stand. -/
def tokens (source : List Char) : List Token :=
  (cut 0 source).filterMap fun
    | .inl token => some token
    | .inr _ => none

/-- The faults in the tokens of a source have the places where those begin. -/
def tokenFaults (source : List Char) : List (Nat × SyntaxFault) :=
  (cut 0 source).filterMap fun
    | .inl _ => none
    | .inr fault => some fault

end OperationCheck.Language
