import OperationCheck.Documents.Document
import OperationCheck.Outcome
import OperationCheck.Report.Diagnostic
import OperationCheck.Report.Writer

/-!
The report on a list of documents. It is written document by document, and it ends early when the
writer has no room.
-/

namespace OperationCheck.Report

open OperationCheck.Documents OperationCheck.Validation

/-- A summary counts documents, problems, and diagnostics. There is one diagnostic for each
location of a problem. -/
structure Summary where
  documents : Nat
  validDocuments : Nat
  problems : Nat
  diagnostics : Nat
deriving Repr, DecidableEq

def Summary.zero : Summary := ⟨0, 0, 0, 0⟩

/-- A report in progress has counted, written and warned so far. -/
structure Progress where
  summary : Summary
  writer : Writer
  warnings : List Warning

/-- A step of a report ends it when the writer has no room. What was written remains. -/
abbrev Step := Except Progress Progress

/-- This function writes a text. -/
def Progress.write (progress : Progress) (text : List Char) : Step :=
  let next := { progress with writer := progress.writer.write text }
  if progress.writer.fits text then .ok next else .error next

/-- A validator finds the problems of a document. -/
abbrev Validator := Document → List Problem

/-- Each location of a problem is written as a diagnostic with a blank line behind it. -/
def reportLocation (formatter : Formatter) (document : Document) (problem : Problem)
    (progress : Progress) (location : Location) : Step :=
  (progress.write
    (formatter.diagnostic document.location location problem.message ++ ['\n', '\n'])).map
      fun progress =>
        let summary := progress.summary
        { progress with summary := { summary with diagnostics := summary.diagnostics + 1 } }

/-- A problem without a location only gives a warning. -/
def reportProblem (formatter : Formatter) (document : Document) (progress : Progress)
    (problem : Problem) : Step :=
  let summary := { progress.summary with problems := progress.summary.problems + 1 }
  let warnings :=
    if problem.locations.isEmpty then
      progress.warnings ++ [.unplacedProblem document.location problem.message]
    else progress.warnings
  problem.locations.foldlM (reportLocation formatter document problem)
    { progress with summary, warnings }

/-- A document without problems is written as one line. -/
def reportDocument (validator : Validator) (formatter : Formatter) (pointer : String)
    (progress : Progress) (document : Document) : Step :=
  let summary := { progress.summary with documents := progress.summary.documents + 1 }
  match validator document with
  | [] =>
      { progress with summary := { summary with validDocuments := summary.validDocuments + 1 } }.write
        (formatter.success pointer ++ ['\n'])
  | problems => problems.foldlM (reportProblem formatter document) { progress with summary }

/-- This function reports on all documents. -/
def report (validator : Validator) (formatter : Formatter) (pointer : String) (writer : Writer)
    (documents : List Document) : Step :=
  documents.foldlM (reportDocument validator formatter pointer) ⟨.zero, writer, []⟩

end OperationCheck.Report
