import OperationCheck.Language.Token

/-!
The contents of strings. A string on one line has escapes, and a block keeps its lines without the
blanks that all of them begin with.
-/

namespace OperationCheck.Language

def escaped (c : Char) : Char :=
  match c with
  | 'b' => '\x08'
  | 'f' => '\x0c'
  | 'n' => '\n'
  | 'r' => '\r'
  | 't' => '\t'
  | c => c

/-- Two halves of a pair make one code. -/
def pairCode (first second : Nat) : Nat := (first - 0xD800) * 0x400 + (second - 0xDC00) + 0x10000

/-- This function resolves the escapes of a string without its quotes. -/
def resolveEscapes : Nat → List Char → List Char
  | 0, _ => []
  | _ + 1, [] => []
  | fuel + 1, '\\' :: 'u' :: '\x7b' :: rest =>
      Char.ofNat (codeOf (rest.takeWhile isHexDigit)) ::
        resolveEscapes fuel ((rest.dropWhile isHexDigit).drop 1)
  | fuel + 1, '\\' :: 'u' :: rest =>
      let code := codeOf (rest.take 4)
      match rest.drop 4 with
      | '\\' :: 'u' :: other =>
          if 0xD800 ≤ code ∧ code < 0xDC00 then
            Char.ofNat (pairCode code (codeOf (other.take 4))) ::
              resolveEscapes fuel (other.drop 4)
          else Char.ofNat code :: resolveEscapes fuel ('\\' :: 'u' :: other)
      | other => Char.ofNat code :: resolveEscapes fuel other
  | fuel + 1, '\\' :: c :: rest => escaped c :: resolveEscapes fuel rest
  | fuel + 1, c :: rest => c :: resolveEscapes fuel rest

/-- In a block, a backslash before three quotes stands for the quotes alone. -/
def resolveBlock : List Char → List Char
  | '\\' :: '"' :: '"' :: '"' :: rest => '"' :: '"' :: '"' :: resolveBlock rest
  | c :: rest => c :: resolveBlock rest
  | [] => []

/-- The lines of a block end at any line break. -/
def blockLines : List Char → List (List Char)
  | [] => [[]]
  | '\r' :: '\n' :: rest => [] :: blockLines rest
  | c :: rest =>
      if isLineBreak c then [] :: blockLines rest
      else
        match blockLines rest with
        | line :: lines => (c :: line) :: lines
        | [] => [[c]]

def isIndent (c : Char) : Bool := c == ' ' || c == '\t'

def isEmptyLine (line : List Char) : Bool := line.all isIndent

/-- The common indentation of the lines behind the first one. -/
def commonIndent (lines : List (List Char)) : Nat :=
  let indents := (lines.filter fun line => !isEmptyLine line).map fun line =>
    (line.takeWhile isIndent).length
  indents.min?.getD 0

/-- A block is shown without its common indentation and without blank lines at its ends. -/
def dedent (text : List Char) : List Char :=
  match blockLines text with
  | [] => []
  | first :: rest =>
      let lines := first :: rest.map (List.drop (commonIndent rest))
      let kept := ((lines.dropWhile isEmptyLine).reverse.dropWhile isEmptyLine).reverse
      ['\n'].intercalate kept

/-- This function finds the content of a string from its written form. -/
def stringContent (written : String) : String :=
  match written.toList with
  | '"' :: '"' :: '"' :: rest => String.ofList (resolveBlock (dedent (rest.take (rest.length - 3))))
  | '"' :: rest =>
      let inner := rest.take (rest.length - 1)
      String.ofList (resolveEscapes (inner.length + 1) inner)
  | _ => written

end OperationCheck.Language
