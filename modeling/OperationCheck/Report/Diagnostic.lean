import OperationCheck.Report.Style
import OperationCheck.Rules.Table
import OperationCheck.Validation.Problem

/-!
The text of one location of a problem, and the line for a document without problems.
-/

namespace OperationCheck.Report

open OperationCheck.Rules OperationCheck.Validation

/-- Colors are shown when they are asked for and the terminal has them. -/
structure Formatter where
  table : Table
  links : LinkStyle
  color : Bool
  terminalColors : Bool

/-- This function paints a text if colors are shown. -/
def Formatter.paint (formatter : Formatter) (color : Color) (text : List Char) : List Char :=
  if formatter.color && formatter.terminalColors then color.paint text else text

/-- A location is written behind the name of its document. -/
def position (document : String) (location : Location) : String :=
  document ++ "#" ++ toString location.line ++ ":" ++ toString location.column

def Formatter.link (formatter : Formatter) (rule : Rule) : List Char :=
  match formatter.links with
  | .plain => rule.link.toList
  | .hyperlink => hyperlink rule.link.toList rule.label.toList

/-- The last line is only present when the message belongs to a rule. -/
def Formatter.linkLine (formatter : Formatter) (message : String) : List Char :=
  match formatter.table.resolve message with
  | some rule => "\n  More information at ".toList ++ formatter.link rule
  | none => []

/-- A diagnostic is the message, the position, and a link if there is one. -/
def Formatter.diagnostic (formatter : Formatter) (document : String) (location : Location)
    (message : String) : List Char :=
  formatter.paint .red message.toList ++ "\n  ".toList
    ++ formatter.paint .yellow (position document location).toList ++ formatter.linkLine message

/-- This is the line for a document without problems. -/
def Formatter.success (formatter : Formatter) (pointer : String) : List Char :=
  formatter.paint .green
    ("✔ Awesome! All operations in " ++ pointer ++ " are valid!").toList

end OperationCheck.Report
