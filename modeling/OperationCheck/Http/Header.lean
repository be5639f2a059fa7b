import OperationCheck.Text.Blank

/-!
Header fields that are sent with requests. A field is written as a name, a colon and a value.
-/

namespace OperationCheck.Http

structure Header where
  name : String
  value : String
deriving Repr, DecidableEq, BEq

/-- A header can be refused when it is written, when its name is read, or when its value is. -/
inductive HeaderError where
  | malformed (argument : String)
  | invalidName (name : String)
  | invalidValue (name : String)
deriving Repr, DecidableEq

def HeaderError.message : HeaderError → String
  | .malformed argument => "Invalid header '" ++ argument ++ "', expected 'NAME: VALUE'"
  | .invalidName name => "Invalid header name '" ++ name ++ "'"
  | .invalidValue name => "Invalid value for header '" ++ name ++ "'"

/-- The first colon separates the name from the value. Blanks around both are dropped. -/
def Header.parse (argument : String) : Except HeaderError Header :=
  let text := argument.toList
  let name := Text.trim (text.takeWhile (· ≠ ':'))
  match text.dropWhile (· ≠ ':'), name with
  | _ :: value, _ :: _ => .ok ⟨String.ofList name, String.ofList (Text.trim value)⟩
  | _, _ => .error (.malformed argument)

/-- A token character is a letter, a digit, or one of fifteen marks. -/
def isTokenCharacter (c : Char) : Bool := c.isAlphanum || "!#$%&'*+-.^_\x60|~".contains c

/-- The longest name that is sent has 65535 characters. -/
def isHeaderName (name : String) : Bool :=
  name ≠ "" && name.utf8ByteSize ≤ 65535 && name.toList.all isTokenCharacter

/-- A value holds no control character other than the tab. -/
def isHeaderValue (value : String) : Bool :=
  value.toList.all fun c => (32 ≤ c.toNat && c.toNat ≠ 127) || c == '\t'

/-- This function accepts the headers that can be sent. The first one that cannot is refused. -/
def checkHeaders : List Header → Except HeaderError Unit
  | [] => .ok ()
  | header :: rest =>
      if !isHeaderName header.name then .error (.invalidName header.name)
      else if !isHeaderValue header.value then .error (.invalidValue header.name)
      else checkHeaders rest

end OperationCheck.Http
