import OperationCheck.Language.Lines
import OperationCheck.TypeSystem.Build
import OperationCheck.TypeSystem.Check
import OperationCheck.TypeSystem.Usage
import OperationCheck.Validation.Syntax

/-!
Schemas from their source. A source that gives any finding is refused, and the refusal reports all
findings in the order of the source.
-/

namespace OperationCheck.TypeSystem

open OperationCheck.Language OperationCheck.Validation

/-- A report shows the first place in a source that a finding is about. -/
structure SchemaReport where
  headline : String
  snippet : Option (String × Location)
deriving Repr, DecidableEq

structure InvalidSchema where
  location : String
  reports : List SchemaReport
deriving Repr, DecidableEq

def InvalidSchema.message (invalid : InvalidSchema) : String :=
  "Schema from " ++ invalid.location ++ " is invalid:"

/-- The definitions that are built in have a source of their own. -/
def builtInLocation : String := "built_in.graphql"

/-- A built-in scalar is named behind a keyword. -/
def builtInColumn : Nat := 8

/-- A type that repeats a built-in scalar is shown with that scalar. -/
def snippetOf (location source : String) (finding : Finding) : Option (String × Location) :=
  match finding.cause with
  | .typeDefinedTwice _ (some line) => some (builtInLocation, ⟨line, builtInColumn⟩)
  | _ => finding.place.map fun place => (location, locateByCharacters source place)

def reportOf (location source : String) (finding : Finding) : SchemaReport :=
  ⟨finding.cause.message, snippetOf location source finding⟩

/-- All findings about a source, with what could be built of it. -/
def examine (source : String) : Schema × List Finding :=
  let document := Document.parse source
  let (schema, findings) := build document
  (schema, inOrder (syntaxFindings document ++ findings ++ check schema))

/-- This function reads a schema. The location tells where the source comes from. -/
def Schema.read (location source : String) : Except InvalidSchema Schema :=
  match examine source with
  | (schema, []) => .ok schema.withoutUnused
  | (_, findings) => .error ⟨location, findings.map (reportOf location source)⟩

end OperationCheck.TypeSystem
