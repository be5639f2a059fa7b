import Mathlib.Algebra.BigOperators.Group.List.Basic
import Mathlib.Algebra.GroupWithZero.Nat
import OperationCheck.Report.Summary

/-!
Accounts of a report. The main statement says that a report with an unlimited writer counts every
document and every problem, and that each location of a problem is written once and in order.
-/

namespace OperationCheck.Report

open OperationCheck.Documents OperationCheck.Text OperationCheck.Validation

/-- An account tells what a part of a report counts, writes, and warns of. -/
structure Account where
  summary : Summary
  text : List Char
  warnings : List Warning

def Summary.add (first second : Summary) : Summary :=
  ⟨first.documents + second.documents, first.validDocuments + second.validDocuments,
    first.problems + second.problems, first.diagnostics + second.diagnostics⟩

theorem Summary.add_assoc (first second third : Summary) :
    (first.add second).add third = first.add (second.add third) := by
  simp only [add, Nat.add_assoc]

theorem Summary.zero_add (summary : Summary) : Summary.zero.add summary = summary := by
  simp only [add, zero, Nat.zero_add]

def Account.append (first second : Account) : Account :=
  ⟨first.summary.add second.summary, first.text ++ second.text,
    first.warnings ++ second.warnings⟩

/-- The account of several parts adds up their counts and joins the rest. -/
def Account.all (accounts : List Account) : Account :=
  ⟨⟨(accounts.map (·.summary.documents)).sum, (accounts.map (·.summary.validDocuments)).sum,
      (accounts.map (·.summary.problems)).sum, (accounts.map (·.summary.diagnostics)).sum⟩,
    accounts.flatMap (·.text), accounts.flatMap (·.warnings)⟩

/-- The accounts of a list are the first one's, then those of the others. -/
theorem Account.all_cons (account : Account) (rest : List Account) :
    Account.all (account :: rest) = account.append (Account.all rest) := by
  simp only [all, append, Summary.add, List.map_cons, List.sum_cons, List.flatMap_cons]

/-- A report in progress goes on by an account. -/
def Progress.extend (progress : Progress) (account : Account) : Progress :=
  ⟨progress.summary.add account.summary, progress.writer.write account.text,
    progress.warnings ++ account.warnings⟩

/-- Two accounts taken in one after the other are their concatenation taken in. -/
theorem Progress.extend_append (progress : Progress) (first second : Account) :
    (progress.extend first).extend second = progress.extend (first.append second) := by
  simp only [extend, Account.append, Summary.add_assoc, Writer.write_append, List.append_assoc]

/-- Nothing to take in leaves the progress as it stands, as long as the writer has not run over. -/
theorem Progress.extend_none {progress : Progress} (within : progress.writer.fits [] = true) :
    progress.extend (Account.all []) = progress := by
  have unwritten := Writer.write_nil within
  simp only [extend, Account.all, List.map_nil, List.sum_nil, List.flatMap_nil, unwritten,
    Summary.add, Nat.add_zero, List.append_nil]

/-- A step keeps an account when it goes on by it as long as its text fits. Otherwise the writer
takes as much of the text as there is room for. -/
structure Keeps (step : Progress → Step) (account : Account) : Prop where
  complete : ∀ progress, progress.writer.fits [] = true →
    progress.writer.fits account.text = true → step progress = .ok (progress.extend account)
  stopped : ∀ progress, progress.writer.fits [] = true →
    progress.writer.fits account.text = false →
      ∃ last, step progress = .error last ∧ last.writer = progress.writer.write account.text

/-- A step that writes nothing keeps an account without a text. -/
theorem keeps_count (summary : Summary) (warnings : List Warning) :
    Keeps (fun progress => .ok { progress with
      summary := progress.summary.add summary
      warnings := progress.warnings ++ warnings }) ⟨summary, [], warnings⟩ where
  complete progress within _ := by
    simp only [Progress.extend, Writer.write_nil within]
  stopped progress within full := by
    rw [within] at full
    cases full

theorem keeps_write (text : List Char) :
    Keeps (fun progress => progress.write text) ⟨.zero, text, []⟩ where
  complete progress _ room := by
    simp [Progress.write, Progress.extend, room, Summary.add, Summary.zero]
  stopped progress _ full :=
    ⟨{ progress with writer := progress.writer.write text }, by simp [Progress.write, full], rfl⟩

/-- Steps in a row keep the joined account. -/
theorem Keeps.andThen {first second : Progress → Step} {before after : Account}
    (firstKeeps : Keeps first before) (secondKeeps : Keeps second after) :
    Keeps (fun progress => (first progress).bind second) (before.append after) where
  complete progress within room := by
    simp only [Account.append, Writer.fits_append, Bool.and_eq_true] at room
    have next := secondKeeps.complete (progress.extend before)
      (Writer.fits_nil_write progress.writer before.text) room.2
    rw [firstKeeps.complete progress within room.1, ← Progress.extend_append]
    exact next
  stopped progress within full := by
    cases room : progress.writer.fits before.text with
    | false =>
        obtain ⟨last, failed, written⟩ := firstKeeps.stopped progress within room
        refine ⟨last, by rw [failed]; rfl, ?_⟩
        rw [written]
        exact (Writer.write_append_of_full room after.text).symm
    | true =>
        simp only [Account.append, Writer.fits_append, room, Bool.true_and] at full
        obtain ⟨last, failed, written⟩ := secondKeeps.stopped (progress.extend before)
          (Writer.fits_nil_write progress.writer before.text) full
        refine ⟨last, by rw [firstKeeps.complete progress within room]; exact failed, ?_⟩
        rw [written]
        exact Writer.write_append progress.writer before.text after.text

/-- A loop keeps the account of all its items. -/
theorem Keeps.foldlM {α : Type} {step : Progress → α → Step} {account : α → Account}
    (each : ∀ item, Keeps (fun progress => step progress item) (account item))
    (items : List α) :
    Keeps (fun progress => items.foldlM step progress) (Account.all (items.map account)) := by
  induction items with
  | nil =>
      constructor
      · intro progress within _
        exact congrArg Except.ok (Progress.extend_none within).symm
      · intro progress within full
        exact absurd (within.symm.trans full) (by decide)
  | cons item rest ih =>
      rw [List.map_cons, Account.all_cons]
      exact (each item).andThen ih

/-- The text of a location has a blank line behind it. -/
def locationText (formatter : Formatter) (document : Document) (problem : Problem)
    (location : Location) : List Char :=
  formatter.diagnostic document.location location problem.message ++ ['\n', '\n']

/-- A problem is written once for each of its locations. -/
def problemText (formatter : Formatter) (document : Document) (problem : Problem) : List Char :=
  problem.locations.flatMap (locationText formatter document problem)

/-- A document without problems is written as one line, and another one as its problems. -/
def documentText (validator : Validator) (formatter : Formatter) (pointer : String)
    (document : Document) : List Char :=
  match validator document with
  | [] => formatter.success pointer ++ ['\n']
  | problems => problems.flatMap (problemText formatter document)

def reportText (validator : Validator) (formatter : Formatter) (pointer : String)
    (documents : List Document) : List Char :=
  documents.flatMap (documentText validator formatter pointer)

/-- There is one warning for each problem without a location. -/
def documentWarnings (validator : Validator) (document : Document) : List Warning :=
  ((validator document).filter fun problem => problem.locations.isEmpty).map fun problem =>
    .unplacedProblem document.location problem.message

def reportWarnings (validator : Validator) (documents : List Document) : List Warning :=
  documents.flatMap (documentWarnings validator)

/-- This function counts what a report is about. -/
def reportSummary (validator : Validator) (documents : List Document) : Summary where
  documents := documents.length
  validDocuments := documents.countP fun document => (validator document).isEmpty
  problems := (documents.map fun document => (validator document).length).sum
  diagnostics := (documents.map fun document =>
    ((validator document).map fun problem => problem.locations.length).sum).sum

/-- Steps with the same results keep the same account. -/
theorem Keeps.congr {step other : Progress → Step} {account : Account}
    (keeps : Keeps step account) (same : ∀ progress, other progress = step progress) :
    Keeps other account := by
  rwa [funext same]

/-- One location of a problem adds one to the diagnostics and its own text. -/
theorem keeps_reportLocation (formatter : Formatter) (document : Document) (problem : Problem)
    (location : Location) :
    Keeps (fun progress => reportLocation formatter document problem progress location)
      ⟨⟨0, 0, 0, 1⟩, locationText formatter document problem location, []⟩ := by
  have written := (keeps_write (locationText formatter document problem location)).andThen
    (keeps_count ⟨0, 0, 0, 1⟩ [])
  simp only [Account.append, List.append_nil, Summary.zero_add] at written
  refine written.congr fun progress => ?_
  simp only [reportLocation, locationText]
  cases progress.write _ with
  | ok next => simp [Except.map, Except.bind, Summary.add]
  | error last => rfl

/-- A problem without a location gives a warning. -/
def problemWarnings (document : Document) (problem : Problem) : List Warning :=
  if problem.locations.isEmpty then [.unplacedProblem document.location problem.message] else []

/-- A problem adds one to the errors, one diagnostic for each of its locations, and a warning if it
has none. -/
theorem keeps_reportProblem (formatter : Formatter) (document : Document) (problem : Problem) :
    Keeps (fun progress => reportProblem formatter document progress problem)
      ⟨⟨0, 0, 1, problem.locations.length⟩, problemText formatter document problem,
        problemWarnings document problem⟩ := by
  have counted := (keeps_count ⟨0, 0, 1, 0⟩ (problemWarnings document problem)).andThen
    (Keeps.foldlM (keeps_reportLocation formatter document problem) problem.locations)
  have total : Account.append ⟨⟨0, 0, 1, 0⟩, [], problemWarnings document problem⟩
      (Account.all (problem.locations.map fun location =>
        ⟨⟨0, 0, 0, 1⟩, locationText formatter document problem location, []⟩)) =
      ⟨⟨0, 0, 1, problem.locations.length⟩, problemText formatter document problem,
        problemWarnings document problem⟩ := by
    simp [Account.append, Account.all, Summary.add, problemText, List.flatMap_map,
      Function.comp_def]
  rw [total] at counted
  refine counted.congr fun progress => ?_
  simp only [reportProblem, problemWarnings, Except.bind]
  cases problem.locations.isEmpty <;> simp [Summary.add]

/-- The warnings of a list of problems are those of its problems without a location, in order. -/
theorem flatMap_problemWarnings (document : Document) (problems : List Problem) :
    problems.flatMap (problemWarnings document) =
      (problems.filter fun problem => problem.locations.isEmpty).map fun problem =>
        .unplacedProblem document.location problem.message := by
  induction problems with
  | nil => rfl
  | cons problem rest ih =>
      rw [List.flatMap_cons, ih, problemWarnings]
      cases unplaced : problem.locations.isEmpty <;> simp [unplaced]

/-- A document adds what the account of that document alone says. -/
theorem keeps_reportDocument (validator : Validator) (formatter : Formatter) (pointer : String)
    (document : Document) :
    Keeps (fun progress => reportDocument validator formatter pointer progress document)
      ⟨reportSummary validator [document], documentText validator formatter pointer document,
        documentWarnings validator document⟩ := by
  cases found : validator document with
  | nil =>
      have counted := (keeps_count ⟨1, 1, 0, 0⟩ []).andThen
        (keeps_write (formatter.success pointer ++ ['\n']))
      have total : Account.append ⟨⟨1, 1, 0, 0⟩, [], []⟩
          ⟨.zero, formatter.success pointer ++ ['\n'], []⟩ =
          ⟨reportSummary validator [document], documentText validator formatter pointer document,
            documentWarnings validator document⟩ := by
        simp [Account.append, Summary.add, Summary.zero, reportSummary, documentText,
          documentWarnings, found]
      rw [total] at counted
      refine counted.congr fun progress => ?_
      simp [reportDocument, found, Except.bind, Summary.add]
  | cons first rest =>
      have counted := (keeps_count ⟨1, 0, 0, 0⟩ []).andThen
        (Keeps.foldlM (keeps_reportProblem formatter document) (first :: rest))
      have total : Account.append ⟨⟨1, 0, 0, 0⟩, [], []⟩
          (Account.all ((first :: rest).map fun problem =>
            ⟨⟨0, 0, 1, problem.locations.length⟩, problemText formatter document problem,
              problemWarnings document problem⟩)) =
          ⟨reportSummary validator [document], documentText validator formatter pointer document,
            documentWarnings validator document⟩ := by
        simp [Account.append, Account.all, Summary.add, reportSummary, documentText,
          documentWarnings, found, List.flatMap_map, Function.comp_def, Nat.add_comm,
          ← flatMap_problemWarnings]
      rw [total] at counted
      refine counted.congr fun progress => ?_
      simp [reportDocument, found, Except.bind, Summary.add]

/-- The counts of a list are the first document's and those of the others. -/
theorem reportSummary_cons (validator : Validator) (document : Document)
    (rest : List Document) :
    reportSummary validator (document :: rest) =
      (reportSummary validator [document]).add (reportSummary validator rest) := by
  simp [reportSummary, Summary.add, List.countP_cons, Nat.add_comm]

/-- The accounts of the documents, put together, are the account of the list. -/
theorem all_documents (validator : Validator) (formatter : Formatter) (pointer : String)
    (documents : List Document) :
    Account.all (documents.map fun document =>
        ⟨reportSummary validator [document], documentText validator formatter pointer document,
          documentWarnings validator document⟩) =
      ⟨reportSummary validator documents, reportText validator formatter pointer documents,
        reportWarnings validator documents⟩ := by
  induction documents with
  | nil => rfl
  | cons document rest ih =>
      rw [List.map_cons, Account.all_cons, ih, reportSummary_cons validator document rest]
      rfl

/-- The whole loop over the documents takes in the account of the list. -/
theorem keeps_report (validator : Validator) (formatter : Formatter) (pointer : String)
    (documents : List Document) :
    Keeps (fun progress =>
        documents.foldlM (reportDocument validator formatter pointer) progress)
      ⟨reportSummary validator documents, reportText validator formatter pointer documents,
        reportWarnings validator documents⟩ := by
  have looped := Keeps.foldlM (keeps_reportDocument validator formatter pointer) documents
  rwa [all_documents] at looped

/-- A report is complete when the writer has room for the whole text. -/
theorem report_of_room (validator : Validator) (formatter : Formatter) (pointer : String)
    (writer : Writer) (documents : List Document)
    (room : writer.fits (reportText validator formatter pointer documents) = true) :
    report validator formatter pointer writer documents =
      .ok ⟨reportSummary validator documents,
        writer.write (reportText validator formatter pointer documents),
        reportWarnings validator documents⟩ := by
  have within : writer.fits [] = true := by
    have split := Writer.fits_append writer [] (reportText validator formatter pointer documents)
    rw [List.nil_append, room] at split
    exact (Bool.and_eq_true_iff.1 split.symm).1
  have complete := (keeps_report validator formatter pointer documents).complete
    ⟨.zero, writer, []⟩ within room
  rw [Progress.extend, Summary.zero_add, List.nil_append] at complete
  exact complete

/-- A problem is shown once for each location, or else once as a warning. -/
theorem sum_shown (document : Document) (problems : List Problem) :
    (problems.map fun problem => problem.locations.length).sum +
        (problems.flatMap (problemWarnings document)).length =
      (problems.map fun problem => max 1 problem.locations.length).sum := by
  induction problems with
  | nil => rfl
  | cons problem rest ih =>
      simp only [List.map_cons, List.sum_cons, List.flatMap_cons, List.length_append]
      have shown : problem.locations.length + (problemWarnings document problem).length =
          max 1 problem.locations.length := by
        rw [problemWarnings]
        cases found : problem.locations with
        | nil => rfl
        | cons location others =>
            simp only [List.isEmpty_cons, List.length_cons, Bool.false_eq_true, ↓reduceIte,
              List.length_nil]
            omega
      omega

/-- A problem writes nothing only where it has no location. -/
theorem problemText_eq_nil_iff (formatter : Formatter) (document : Document)
    (problem : Problem) :
    problemText formatter document problem = [] ↔ problem.locations = [] := by
  cases found : problem.locations with
  | nil => simp [problemText, found]
  | cons location rest => simp [problemText, locationText, found]

/-- A document writes nothing only where it is invalid and none of its problems has a location. -/
theorem documentText_eq_nil_iff (validator : Validator) (formatter : Formatter)
    (pointer : String) (document : Document) :
    documentText validator formatter pointer document = [] ↔
      validator document ≠ [] ∧ ∀ problem ∈ validator document, problem.locations = [] := by
  cases found : validator document with
  | nil => simp [documentText, found]
  | cons first rest =>
      simp only [documentText, found, List.flatMap_eq_nil_iff, problemText_eq_nil_iff]
      exact ⟨fun unplaced => ⟨List.cons_ne_nil first rest, unplaced⟩, And.right⟩

/-- A report with an unlimited writer succeeds. Its summary counts all documents and problems, and
what is written and warned of is told document by document. Each problem is shown once for each
location or else by one warning, and a document without any location to show leaves no text. -/
theorem report_unlimited (validator : Validator) (formatter : Formatter) (pointer : String)
    (documents : List Document) (written : List UInt8) :
    report validator formatter pointer ⟨none, written⟩ documents =
      .ok ⟨reportSummary validator documents,
        ⟨none, written ++ bytes (reportText validator formatter pointer documents)⟩,
        reportWarnings validator documents⟩ ∧
    (reportSummary validator documents).diagnostics +
        (reportWarnings validator documents).length =
      ((documents.flatMap validator).map fun problem => max 1 problem.locations.length).sum ∧
    ∀ document, documentText validator formatter pointer document = [] ↔
      validator document ≠ [] ∧ ∀ problem ∈ validator document, problem.locations = [] := by
  refine ⟨report_of_room validator formatter pointer ⟨none, written⟩ documents rfl, ?_,
    documentText_eq_nil_iff validator formatter pointer⟩
  induction documents with
  | nil => rfl
  | cons document rest ih =>
      have first := sum_shown document (validator document)
      rw [flatMap_problemWarnings] at first
      rw [reportSummary_cons, reportWarnings, List.flatMap_cons, List.length_append,
        List.flatMap_cons, List.map_append, List.sum_append_nat, ← ih, ← first]
      simp only [Summary.add, reportSummary, documentWarnings, reportWarnings, List.map_cons,
        List.map_nil, List.sum_cons, List.sum_nil]
      omega

end OperationCheck.Report
