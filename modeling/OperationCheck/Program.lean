/-!
The name and the version that the program goes by.
-/

namespace OperationCheck

def programName : String := "validate-operations"

def programVersion : String := "0.1.0"

end OperationCheck
