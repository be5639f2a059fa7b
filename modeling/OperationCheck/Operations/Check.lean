import OperationCheck.Language.Lines
import OperationCheck.Operations.Merging
import OperationCheck.Operations.Selection
import OperationCheck.Operations.Subscription
import OperationCheck.Operations.Typing
import OperationCheck.Operations.Variable
import OperationCheck.Validation.Syntax

/-!
Checking a document against a schema.
-/

namespace OperationCheck.Operations

open OperationCheck.Language OperationCheck.TypeSystem OperationCheck.Validation

/-- The location of the directives of an operation. -/
def operationLocation : OperationKind → String
  | .query => "QUERY"
  | .mutation => "MUTATION"
  | .subscription => "SUBSCRIPTION"

def checkOperation (schema : Schema) (document : TypedDocument) (operation : TypedOperation) :
    List Finding :=
  let scope : Scope := ⟨schema, document, operation.definedVariables⟩
  scope.checkDirectives (operationLocation operation.kind) operation.directives
    ++ checkVariableDefinitions schema operation.definedVariables
    ++ checkUnusedVariables document operation
    ++ scope.checkAll operation.selections

/-- Every fragment is reached from an operation. -/
def checkUnusedFragments (document : TypedDocument) : List Finding :=
  let used := document.reached (document.operations.flatMap TypedOperation.selections)
  (document.fragments.filter fun fragment => !used.contains fragment.name).map fun fragment =>
    found fragment.place (.unusedFragment fragment.name)

def checkMerging (schema : Schema) (document : TypedDocument) : List Finding :=
  (document.operations.foldl (Merging.checkOperation schema document) Merging.empty).findings

def checkDocument (schema : Schema) (document : TypedDocument) : List Finding :=
  document.operations.flatMap (checkOperation schema document)
    ++ checkUnusedFragments document
    ++ document.operations.flatMap (checkSubscription document)
    ++ checkMerging schema document

/-- All findings about a source, in the order of their places. -/
def examine (schema : Schema) (source : String) : List Finding :=
  let parsed := Document.parse source
  let (document, findings) := typeDocument schema parsed.definitions
  inOrder (syntaxFindings parsed ++ findings ++ checkDocument schema document)

/-- This function finds the problems of a source. Columns are counted in bytes. -/
def validate (schema : Schema) (source : String) : List Problem :=
  (examine schema source).map fun finding =>
    ⟨finding.cause.message, finding.place.toList.map (locateByBytes source)⟩

end OperationCheck.Operations
