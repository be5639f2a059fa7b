import OperationCheck.Language.Reading.TypeSystem

/-!
Reading whole documents.
-/

namespace OperationCheck.Language

namespace Reading

/-- The word that begins a definition tells its form. -/
def readDefinition (word : String) (fuel : Nat) : Reading (Option Definition) := do
  match word with
  | "query" | "mutation" | "subscription" | "\x7b" =>
      return (← readOperation fuel).map .operation
  | "fragment" => return (← readFragment fuel).map .fragment
  | "directive" => return (← readDirectiveDefinition fuel).map .directive
  | "schema" => return some (← readSchema fuel)
  | "extend" => readExtension fuel
  | word =>
      if typeWords.contains word then readTypeDefinition word fuel
      else
        noteAndPass (.expected "definition")
        return none

/-- A description stands before the word that begins a definition. -/
def readNext (fuel : Nat) : Reading (Option Definition) := do
  match ← peek with
  | some .text => readDefinition (((← second).map Token.text).getD "") fuel
  | some .name | some (.mark '\x7b') => readDefinition (← peekText) fuel
  | _ =>
      noteAndPass (.expected "a StringValue, Name or OperationDefinition")
      return none

/-- Definitions go up to the end of the source. -/
def readDefinitions (fuel : Nat) : Reading (List Definition) := do
  if (← peek) == some .stop then
    note .emptyDocument
    return []
  many (do return (← peek).any (· != .stop)) (readNext fuel) fuel

end Reading

/-- A document has its definitions and the faults that were found in it. -/
structure Document where
  definitions : List Definition
  faults : List (Nat × SyntaxFault)

/-- This function reads a document. The faults of its tokens come first. -/
def Document.parse (source : String) : Document :=
  let text := source.toList
  let tokens := tokens text
  let (definitions, reader) :=
    (Reading.readDefinitions (2 * tokens.length + 8)).run ⟨tokens, [], 0, false⟩
  ⟨definitions, tokenFaults text ++ reader.faults.reverse⟩

end OperationCheck.Language
