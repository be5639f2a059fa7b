import OperationCheck.Language.Reading.Document
import OperationCheck.Validation.Finding

/-!
The findings about the syntax of a document.
-/

namespace OperationCheck.Validation

open OperationCheck.Language

def syntaxFindings (document : Document) : List Finding :=
  document.faults.map fun fault => found fault.1 (.badSyntax fault.2)

end OperationCheck.Validation
