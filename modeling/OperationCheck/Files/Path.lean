import OperationCheck.Text.Case

/-!
Paths as texts and as lists of components. Two spellings with the same components name the same
place, and paths are ordered by their components.
-/

namespace OperationCheck.Files

/-- A path goes from the root, from the current directory, to a parent, or to a named entry. -/
inductive Component where
  | root
  | current
  | parent
  | normal (name : String)
deriving Repr, DecidableEq, BEq

def Component.text : Component → String
  | .root => "/"
  | .current => "."
  | .parent => ".."
  | .normal name => name

/-- A separator between two pieces of a path is a slash. -/
def pieces (path : String) : List String :=
  (path.toList.splitOn '/').map String.ofList

/-- Empty pieces and inner pieces `.` name nothing. -/
def component? (piece : String) : Option Component :=
  if piece = "" ∨ piece = "." then none
  else if piece = ".." then some .parent
  else some (.normal piece)

/-- The components of a path leave out repeated slashes, a slash at the end, and every `.` that
is not at the beginning. -/
def components (path : String) : List Component :=
  let named := (pieces path).filterMap component?
  match pieces path with
  | "" :: _ :: _ => .root :: named
  | "." :: _ => .current :: named
  | _ => named

def isAbsolute (path : String) : Bool := path.startsWith "/"

/-- An absolute path replaces the path that it is joined to. -/
def join (base path : String) : String :=
  if isAbsolute path then path
  else if base = "" ∨ base.endsWith "/" then base ++ path
  else base ++ "/" ++ path

/-- The file name of a path is its last component, if that has a name. -/
def fileName? (path : String) : Option String :=
  match (components path).getLast? with
  | some (.normal name) => some name
  | _ => none

/-- The extension is what follows the last dot of a name, unless that dot is its first
character. -/
def extensionOf (name : String) : Option String :=
  let reversed := name.toList.reverse
  let ending := reversed.takeWhile (· ≠ '.')
  match reversed.drop ending.length with
  | _ :: _ :: _ => some (String.ofList ending.reverse)
  | _ => none

def extension? (path : String) : Option String := (fileName? path).bind extensionOf

/-- The kind of a file is told by its extension in lower case. -/
def fileKind? (path : String) : Option String := (extension? path).map Text.lowercase

/-- Components are ordered by their form, and names by their bytes. -/
def Component.rank : Component → Nat × String
  | .root => (0, "")
  | .current => (1, "")
  | .parent => (2, "")
  | .normal name => (3, name)

/-- Code points are in the same order as the bytes that encode them. -/
def Component.le (first second : Component) : Bool :=
  let (firstRank, firstName) := first.rank
  let (secondRank, secondName) := second.rank
  firstRank < secondRank || (firstRank == secondRank && firstName ≤ secondName)

def componentsLe : List Component → List Component → Bool
  | [], _ => true
  | _ :: _, [] => false
  | first :: firstRest, second :: secondRest =>
      if first = second then componentsLe firstRest secondRest else first.le second

/-- Paths are compared component by component. -/
def pathLe (first second : String) : Bool := componentsLe (components first) (components second)

end OperationCheck.Files
