import OperationCheck.Pattern.Reader
import OperationCheck.Pattern.Search
import OperationCheck.Rules.BuiltIn

/-!
Rule tables. A table links messages to documentation: the first rule whose pattern is found in a
message gives the link.
-/

namespace OperationCheck.Rules

/-- The pattern of a rule is kept as it was written, next to its reading. -/
structure Rule where
  name : Option String
  pattern : String
  matcher : Pattern
  link : String

structure Table where
  name : String
  description : Option String
  rules : List Rule

/-- A table is refused when its file does not have the form of a sheet, or for its first pattern
that cannot be read. -/
inductive TableError where
  | malformed
  | invalidPattern (table : String) (index : Nat) (pattern : String)
deriving Repr, DecidableEq

def TableError.message : TableError → String
  | .malformed => "failed to parse rule table"
  | .invalidPattern table index pattern =>
      "invalid pattern for rule #" ++ toString index ++ " ('" ++ pattern ++ "') in table '"
        ++ table ++ "'"

def Rule.ofLine? (line : Line) : Option Rule :=
  (Pattern.parse? line.pattern).map fun matcher => ⟨line.name, line.pattern, matcher, line.link⟩

/-- The rules of a table are in the order of the lines of its sheet. The first line is at the
given index. -/
def compile (table : String) : Nat → List Line → Except TableError (List Rule)
  | _, [] => .ok []
  | index, line :: lines =>
      match Rule.ofLine? line with
      | none => .error (.invalidPattern table index line.pattern)
      | some rule => (compile table (index + 1) lines).map (rule :: ·)

def Table.ofSheet (sheet : Sheet) : Except TableError Table :=
  (compile sheet.name 0 sheet.lines).map fun rules => ⟨sheet.name, sheet.description, rules⟩

/-- This function reads a table from the text of its file. -/
def Table.parse (source : String) : Except TableError Table :=
  match Sheet.parse? source with
  | none => .error .malformed
  | some sheet => Table.ofSheet sheet

def builtInTables : List Table := builtInSheets.filterMap fun sheet => (Table.ofSheet sheet).toOption

def Rule.isFoundIn (rule : Rule) (message : String) : Bool :=
  Pattern.isFound rule.matcher message.toList

/-- A message belongs to the first rule that is found in it. -/
def Table.resolve (table : Table) (message : String) : Option Rule :=
  table.rules.find? fun rule => rule.isFoundIn message

/-- A rule without a name is shown by its link. -/
def Rule.label (rule : Rule) : String := rule.name.getD rule.link

end OperationCheck.Rules
