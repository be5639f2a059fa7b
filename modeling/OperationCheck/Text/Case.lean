/-!
Letters in lower case.
-/

namespace OperationCheck.Text

/-- Only the letters of ASCII lose their case. -/
def lowercase (text : String) : String := String.ofList (text.toList.map Char.toLower)

end OperationCheck.Text
