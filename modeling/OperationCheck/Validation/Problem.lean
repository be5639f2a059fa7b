/-!
What a validator finds in a document.
-/

namespace OperationCheck.Validation

/-- Lines and columns are counted from one. -/
structure Location where
  line : Nat
  column : Nat
deriving Repr, DecidableEq

/-- A problem may be found at any number of locations. -/
structure Problem where
  message : String
  locations : List Location
deriving Repr, DecidableEq

end OperationCheck.Validation
