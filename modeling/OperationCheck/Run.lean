import OperationCheck.Configuration
import OperationCheck.Documents.Loading
import OperationCheck.Operations.Check
import OperationCheck.Report.Summary
import OperationCheck.Source.Loading

/-!
A whole run. The table, the schema and the documents are loaded one after another, and then the
documents are reported on. The main statement says that nothing is written when loading fails.
-/

namespace OperationCheck

open OperationCheck.Documents OperationCheck.Files OperationCheck.Http OperationCheck.Report
open OperationCheck.Rules OperationCheck.Source OperationCheck.TypeSystem

inductive RunError where
  | registry (error : RegistryError)
  | schema (error : LoadError)
  | documents (error : DocumentError)
  | fullWriter

def RunError.message : RunError → String
  | .registry error => error.message
  | .schema error => error.message
  | .documents error => error.message
  | .fullWriter => "broken pipe"

/-- A run takes place among files and in a network. -/
structure World where
  tree : Tree
  network : Network

/-- What a run loads before it reports. -/
structure Materials where
  table : Table
  schema : Schema
  documents : List Document

def loadTable (tree : Tree) (configuration : Configuration) : Outcome RunError Table := do
  let registry ← (Registry.load tree configuration.directories).mapError RunError.registry
  Outcome.ofExcept ((registry.select tree configuration.rules).mapError RunError.registry)

/-- A local schema is not one of the documents. -/
def finderFor (pointer : String) : Finder :=
  ⟨".", ((Pointer.detect pointer).bind Pointer.localPath?).toList⟩

/-- This function loads everything in order, up to the first failure. -/
def loadMaterials (world : World) (configuration : Configuration) :
    Outcome RunError Materials := do
  let table ← loadTable world.tree configuration
  let loaded := loadSchema world.tree world.network configuration.headers configuration.schema
  let schema ← Outcome.ofExcept (loaded.result.mapError RunError.schema)
  let finder := finderFor configuration.schema
  let documents ← (finder.load world.tree configuration.operation).mapError RunError.documents
  return ⟨table, schema, documents⟩

/-- What is left after a run. -/
structure Ended where
  result : Except RunError Summary
  writer : Writer
  warnings : List Warning

/-- Documents are validated against the schema. -/
def Materials.validator (materials : Materials) : Validator := fun document =>
  Operations.validate materials.schema document.source

def Materials.report (materials : Materials) (formatter : Formatter) (pointer : String)
    (writer : Writer) : Ended :=
  match Report.report materials.validator formatter pointer writer materials.documents with
  | .ok progress => ⟨.ok progress.summary, progress.writer, progress.warnings⟩
  | .error progress => ⟨.error .fullWriter, progress.writer, progress.warnings⟩

/-- How a run presents its report. -/
structure Presentation where
  links : LinkStyle
  color : Bool
  terminalColors : Bool

/-- Problems are shown with the links of the table. -/
def Materials.formatter (materials : Materials) (presentation : Presentation) : Formatter :=
  ⟨materials.table, presentation.links, presentation.color, presentation.terminalColors⟩

/-- This function does a run. -/
def run (world : World) (configuration : Configuration) (presentation : Presentation)
    (writer : Writer) : Ended :=
  let loaded := loadMaterials world configuration
  match loaded.result with
  | .error error => ⟨.error error, writer, loaded.warnings⟩
  | .ok materials =>
      let ended := materials.report (materials.formatter presentation) configuration.operation
        writer
      { ended with warnings := loaded.warnings ++ ended.warnings }

/-- A run whose materials fail to load writes nothing. -/
theorem run_failure_writer (world : World) (configuration : Configuration)
    (presentation : Presentation) (writer : Writer) (error : RunError)
    (failed : (loadMaterials world configuration).result = .error error) :
    (run world configuration presentation writer).writer = writer := by
  simp [run, failed]

end OperationCheck
