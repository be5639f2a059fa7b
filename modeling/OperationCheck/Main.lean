import OperationCheck.Invocation
import OperationCheck.Reach

/-!
The program on the command line. It looks at the files that are within its reach, and then it does
what its arguments say. It has no network.
-/

namespace OperationCheck

open OperationCheck.Files OperationCheck.Http

def pathOfPlace (place : Place) : String := "/" ++ "/".intercalate place

def closeAt (tree : Tree) (place : Place) : Tree := { tree with closed := place :: tree.closed }

/-- A directory that cannot be listed has no names. -/
def entryNames? (place : Place) : IO (Option (List String)) := do
  try
    let real ← IO.FS.realPath (pathOfPlace place)
    return some ((← real.readDir).toList.map fun entry => entry.fileName)
  catch _ => return none

/-- What is seen of an entry. It may be hidden by the directory that it is in. -/
inductive Sight where
  | content (content : Content)
  | closedFile
  | missing
  | hidden

/-- An entry is a link when it leads elsewhere. -/
def readEntry (place : Place) : IO Sight := do
  try
    let real ← IO.FS.realPath (pathOfPlace place)
    if real.toString ≠ pathOfPlace place then return .content (.link real.toString)
    match (← real.metadata).type with
    | .dir => return .content .directory
    | .file => try return .content (.file (← IO.FS.readBinFile real)) catch _ => return .closedFile
    | _ => return .missing
  catch
    | .permissionDenied .. => return .hidden
    | _ => return .missing

/-- This function adds the entries on the way to the end of a path. -/
partial def addPath (tree : Tree) (place : Place) : List String → IO Tree
  | [] => return tree
  | piece :: pieces => do
      if piece = "" ∨ piece = "." then addPath tree place pieces
      else if piece = ".." then addPath tree place.dropLast pieces
      else
        let entry := place ++ [piece]
        match ← readEntry entry with
        | .missing => return tree
        | .hidden => return if (← entryNames? place).isSome then tree else closeAt tree place
        | .closedFile => return closeAt (tree.addEntry entry (.file ByteArray.empty)) entry
        | .content (.link target) =>
            addPath (tree.addEntry entry (.link target)) [] (Files.pieces target ++ pieces)
        | .content content => addPath (tree.addEntry entry content) entry pieces

def addNamed (tree : Tree) (path : String) : IO Tree :=
  addPath tree (if isAbsolute path then [] else tree.home) (pieces path)

def addEntries (tree : Tree) (place : Place) : IO Tree := do
  match ← entryNames? place with
  | some names => names.foldlM (fun tree name => addPath tree place [name]) tree
  | none => return closeAt tree place

/-- The directory at the end of a path, after the entries on the way to it are added. -/
def addDirectory (tree : Tree) (path : String) : IO (Tree × Option Place) := do
  let tree ← addNamed tree path
  return (tree, (tree.canonical? path).filter fun _ => tree.isDirectory path)

def addListed (tree : Tree) (path : String) : IO Tree := do
  match ← addDirectory tree path with
  | (tree, some place) => addEntries tree place
  | (tree, none) => return tree

def addRules (tree : Tree) (place : Place) : IO Tree :=
  rulePaths.foldlM (fun tree names => addPath tree place names) tree

/-- Directories that a walk does not enter are left out. -/
partial def addBelow (tree : Tree) (place : Place) : IO Tree := do
  let tree ← addRules (← addEntries tree place) place
  let below := (tree.names place).map fun name => place ++ [name]
  below.foldlM (fun tree entry => if tree.isEntered entry then addBelow tree entry else pure tree)
    tree

/-- The rules of the directories above a walk apply to it as well. -/
def addWalked (tree : Tree) (path : String) : IO Tree := do
  match ← addDirectory tree path with
  | (tree, some place) => addBelow (← ([] :: ancestors place).foldlM addRules tree) place
  | (tree, none) => return tree

def readTree (reach : Reach) : IO Tree := do
  let home ← IO.FS.realPath (← IO.currentDir)
  let tree : Tree := ⟨[], (pieces home.toString).filter (· ≠ ""), []⟩
  let tree ← addNamed tree home.toString
  let tree ← reach.named.foldlM addNamed tree
  let tree ← reach.listed.foldlM addListed tree
  reach.walked.foldlM addWalked tree

def readEnvironment : IO Environment := do
  let values ← environmentNames.filterMapM fun name => do
    return (← IO.getEnv name).map fun value => (name, value)
  return ⟨values, ← (← IO.getStdout).isTty⟩

end OperationCheck

open OperationCheck in
def main (arguments : List String) : IO UInt32 := do
  let environment ← readEnvironment
  let tree ← readTree (Reach.ofArguments environment arguments)
  let exit := invoke ⟨tree, Http.Network.unreachable⟩ environment arguments
  let output ← IO.getStdout
  output.write ⟨exit.written.toArray⟩
  output.flush
  exit.complaints.forM IO.eprintln
  return exit.code.toUInt32
