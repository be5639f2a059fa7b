/-!
Documents, which are texts of operations that are validated as a whole.
-/

namespace OperationCheck.Documents

/-- The location of a document names the file that it comes from. -/
structure Document where
  location : String
  source : String
deriving Repr, DecidableEq

end OperationCheck.Documents
