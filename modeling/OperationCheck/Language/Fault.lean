/-!
Faults of the syntax. Most of them tell what was expected.
-/

namespace OperationCheck.Language

inductive SyntaxFault where
  | unknownCharacter (c : Char)
  | loneMinus (c : Char)
  | leadingZero
  | integerSuffix (c : Char)
  | floatSuffix (c : Char)
  | noFraction (c : Char)
  | noExponent (c : Char)
  | noExponentDigit (c : Char)
  | unfinishedFloat
  | unfinishedSpread
  | lineBreakInString
  | unknownEscape
  | shortCode
  | invalidCode
  | surrogateCode
  | unfinishedString
  | unbegunString
  | emptyDocument
  | expected (form : String)
  | expectedMark (mark : Char) (found : String)
  | fragmentNamedOn
  | variableInConstant
  | enumValueName
  | invalidExtension
  | tooDeep
deriving Repr, DecidableEq

/-- The marks that close a group have names. -/
def markName : Char → String
  | ')' => "R_PAREN"
  | ']' => "R_BRACK"
  | _ => "R_CURLY"

def quoted (c : Char) : String := "\x60" ++ String.singleton c ++ "\x60"

/-- What a fault says behind the words that all faults begin with. -/
def SyntaxFault.detail : SyntaxFault → String
  | .unknownCharacter c => "Unexpected character \"" ++ String.singleton c ++ "\""
  | .loneMinus c => "Unexpected character " ++ quoted c
  | .leadingZero => "Numbers must not have non-significant leading zeroes"
  | .integerSuffix c => "Unexpected character " ++ quoted c ++ " as integer suffix"
  | .floatSuffix c => "Unexpected character " ++ quoted c ++ " as float suffix"
  | .noFraction c => "Unexpected character " ++ quoted c ++ ", expected fractional digit"
  | .noExponent c => "Unexpected character " ++ quoted c ++ ", expected exponent digit or sign"
  | .noExponentDigit c => "Unexpected character " ++ quoted c ++ ", expected exponent digit"
  | .unfinishedFloat => "Unexpected EOF in float value"
  | .unfinishedSpread => "Unterminated spread operator"
  | .lineBreakInString => "unexpected line terminator"
  | .unknownEscape => "unexpected escaped character"
  | .shortCode => "incomplete unicode escape sequence"
  | .invalidCode => "invalid unicode escape sequence"
  | .surrogateCode => "surrogate code point is invalid in unicode escape sequence"
  | .unfinishedString => "unterminated string value"
  | .unbegunString => "unexpected end of data while lexing string value"
  | .emptyDocument => "Unexpected <EOF>."
  | .expected form => "expected " ++ form
  | .expectedMark mark found => "expected " ++ markName mark ++ ", got " ++ found
  | .fragmentNamedOn => "Fragment Name cannot be 'on'"
  | .variableInConstant => "unexpected variable value in a Const context"
  | .enumValueName => "invalid Enum Value"
  | .invalidExtension => "Invalid Type System Extension. This extension cannot be applied."
  | .tooDeep => "parser recursion limit reached"

/-- A document that is too deep is not called a syntax error. -/
def SyntaxFault.message (fault : SyntaxFault) : String :=
  if fault = .tooDeep then fault.detail else "syntax error: " ++ fault.detail

end OperationCheck.Language
