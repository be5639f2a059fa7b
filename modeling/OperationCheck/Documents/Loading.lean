import OperationCheck.Documents.Discovery
import OperationCheck.Documents.Document
import OperationCheck.Documents.Kind
import OperationCheck.Outcome
import OperationCheck.Template.Block

/-!
Loading the documents of a pointer. A file of operations is one document, and source code holds one
document for each operation in it.
-/

namespace OperationCheck.Documents

open OperationCheck.Files

/-- The texts of a file of operations are the whole file unless it is blank. -/
def graphQlSources (path content : String) : Outcome DocumentError (List String) :=
  if Text.isBlankText content.toList then do
    Outcome.warn (.emptyDocument path)
    return []
  else return [content]

def codeSources (content : String) : List String :=
  (Template.operations content.toList).map String.ofList

/-- A file of another kind holds no documents and is not read. -/
def loadFile (tree : Tree) (path location : String) : Outcome DocumentError (List Document) :=
  match Kind.ofPath? path with
  | none => return []
  | some kind =>
      match tree.readText path with
      | .error fault => .ofExcept (.error (.unreadable path fault))
      | .ok content => do
          let sources ← match kind with
            | .graphQl => graphQlSources path content
            | .code => pure (codeSources content)
          return sources.map fun source => ⟨location, source⟩

/-- A path below the current directory is shown without the dot that stands for it. -/
def withoutCurrent (path : String) : String :=
  match pieces path with
  | "." :: rest => "/".intercalate (rest.dropWhile fun piece => piece = "" ∨ piece = ".")
  | _ => path

def Finder.location (finder : Finder) (path : String) : String :=
  if components finder.root = [.current] then withoutCurrent path else path

def Finder.loadFiles (finder : Finder) (tree : Tree) :
    List String → Outcome DocumentError (List Document)
  | [] => return []
  | path :: paths => do
      let documents ← loadFile tree path (finder.location path)
      let others ← finder.loadFiles tree paths
      return documents ++ others

/-- This function loads the documents of a pointer in the order of their files. -/
def Finder.load (finder : Finder) (tree : Tree) (pointer : String) :
    Outcome DocumentError (List Document) := do
  let files ← Outcome.ofExcept (finder.discover tree pointer)
  let documents ← finder.loadFiles tree files
  if documents.isEmpty then Outcome.warn (.noDocuments pointer)
  return documents

end OperationCheck.Documents
