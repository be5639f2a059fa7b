/-!
Terminal styles. A colored text is the text between two escapes, and a link is shown as its
address or as a terminal hyperlink.
-/

namespace OperationCheck.Report

inductive Color where
  | red
  | green
  | yellow
deriving Repr, DecidableEq

def escape : Char := '\x1b'

def Color.code : Color → String
  | .red => "31"
  | .green => "32"
  | .yellow => "33"

/-- The opening escape of a color selects it. -/
def Color.opening (color : Color) : List Char := escape :: '[' :: color.code.toList ++ ['m']

/-- The closing escape selects the plain style. -/
def closing : List Char := [escape, '[', '0', 'm']

/-- A closing escape within a colored text is followed by the opening one, so that the color
goes on behind it. -/
def Color.reopen (color : Color) : List Char → List Char
  | '\x1b' :: '[' :: '0' :: 'm' :: rest => closing ++ color.opening ++ color.reopen rest
  | c :: rest => c :: color.reopen rest
  | [] => []

/-- This function paints a text. -/
def Color.paint (color : Color) (text : List Char) : List Char :=
  color.opening ++ color.reopen text ++ closing

/-- Links are written as plain addresses or as hyperlinks. -/
inductive LinkStyle where
  | plain
  | hyperlink
deriving Repr, DecidableEq

/-- Hyperlinks need a terminal that is not a dumb one. -/
def LinkStyle.detect (isTerminal : Bool) (terminal : Option String) : LinkStyle :=
  if isTerminal ∧ terminal ≠ some "dumb" then .hyperlink else .plain

/-- A hyperlink shows a label instead of its address. -/
def hyperlink (address label : List Char) : List Char :=
  let open8 (target : List Char) := escape :: "]8;;".toList ++ target ++ [escape, '\\']
  open8 address ++ label ++ open8 []

end OperationCheck.Report
