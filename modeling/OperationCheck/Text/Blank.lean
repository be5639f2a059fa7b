/-!
Blank characters and the text between them.
-/

namespace OperationCheck.Text

/-- A character is blank when Unicode gives it the property White_Space. -/
def isBlank (c : Char) : Bool :=
  let code := c.toNat
  (9 ≤ code && code ≤ 13) || code == 32 || code == 0x85 || code == 0xA0 || code == 0x1680
    || (0x2000 ≤ code && code ≤ 0x200A) || code == 0x2028 || code == 0x2029 || code == 0x202F
    || code == 0x205F || code == 0x3000

/-- Trimming removes the blank characters at both ends. -/
def trim (text : List Char) : List Char :=
  ((text.dropWhile isBlank).reverse.dropWhile isBlank).reverse

/-- A text is blank when all its characters are. -/
def isBlankText (text : List Char) : Bool := text.all isBlank

end OperationCheck.Text
