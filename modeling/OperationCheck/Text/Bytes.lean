/-!
The bytes of a text.
-/

namespace OperationCheck.Text

/-- Each character is encoded by itself. -/
def bytes (text : List Char) : List UInt8 := text.flatMap String.utf8EncodeChar

@[simp] theorem bytes_nil : bytes [] = [] := rfl

theorem bytes_append (first second : List Char) :
    bytes (first ++ second) = bytes first ++ bytes second := by
  simp [bytes]

end OperationCheck.Text
