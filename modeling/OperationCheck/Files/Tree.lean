import OperationCheck.Files.Path

/-!
A tree of files as a value. Each entry has a place, which is the list of names that leads to it
from the root, and names are followed as a file system follows them. There may be entries that
nobody is permitted to open.
-/

namespace OperationCheck.Files

/-- A place is the list of names from the root. -/
abbrev Place := List String

inductive Content where
  | file (bytes : ByteArray)
  | directory
  | link (target : String)

/-- The root is a directory and has no entry of its own. Relative paths begin at home. What is at a
closed place cannot be opened. The permission to open a directory is one for its names and for what
is behind them. -/
structure Tree where
  entries : List (Place × Content)
  home : Place
  closed : List Place

/-- An operation on a file fails for one of these reasons. -/
inductive Fault where
  | notFound
  | notADirectory
  | isADirectory
  | permissionDenied
  | tooManyLinks
  | notText
  | invalidPath
  | nameTooLong
deriving Repr, DecidableEq

def Tree.content? (tree : Tree) (place : Place) : Option Content :=
  if place.isEmpty then some .directory else tree.entries.lookup place

def Tree.isOpen (tree : Tree) (place : Place) : Bool := !tree.closed.contains place

/-- The directories on the way to a place, shortest first and without the root. -/
def ancestors (place : Place) : List Place :=
  (List.range (place.length - 1)).map fun count => place.take (count + 1)

/-- An entry that is present already stays. -/
def Tree.addEntry (tree : Tree) (place : Place) (content : Content) : Tree :=
  match tree.content? place with
  | some _ => tree
  | none => { tree with entries := tree.entries ++ [(place, content)] }

/-- This function adds an entry and the directories on the way to it. -/
def Tree.add (tree : Tree) (place : Place) (content : Content) : Tree :=
  ((ancestors place).foldl (fun tree place => tree.addEntry place .directory) tree).addEntry
    place content

/-- A path is followed through at most this many links. -/
def linkLimit : Nat := 40

/-- This function follows the pieces of a path from a place. Every piece but the last one must
lead to a directory, which must be open unless nothing but slashes is behind it. A link is left to
another function, which goes on with the pieces of its target. -/
def Tree.followPieces (tree : Tree) (goOn : Place → List String → Except Fault Place) :
    Place → List String → Except Fault Place
  | place, [] => .ok place
  | place, piece :: pieces =>
      match tree.content? place with
      | some .directory =>
          if piece = "" then tree.followPieces goOn place pieces
          else if !tree.isOpen place then .error .permissionDenied
          else if piece = "." then tree.followPieces goOn place pieces
          else if piece = ".." then tree.followPieces goOn place.dropLast pieces
          else if piece.utf8ByteSize > 255 then .error .nameTooLong
          else
            match tree.content? (place ++ [piece]) with
            | none => .error .notFound
            | some (.link target) =>
                goOn (if isAbsolute target then [] else place) (Files.pieces target ++ pieces)
            | some _ => tree.followPieces goOn (place ++ [piece]) pieces
      | _ => .error .notADirectory

/-- A path is followed through a number of links. -/
def Tree.follow (tree : Tree) : Nat → Place → List String → Except Fault Place
  | 0 => tree.followPieces fun _ _ => .error .tooManyLinks
  | links + 1 => tree.followPieces (tree.follow links)

/-- A path names a place when all its pieces can be followed. -/
def Tree.locate (tree : Tree) (path : String) : Except Fault Place :=
  if path = "" then .error .notFound
  else if path.contains '\x00' then .error .invalidPath
  else
    let start := if isAbsolute path then [] else tree.home
    tree.follow linkLimit start (pieces path)

/-- Two paths are the same when they name the same place. -/
def Tree.canonical? (tree : Tree) (path : String) : Option Place := (tree.locate path).toOption

/-- A path that names no place is only the same as others with its components. The components of
other paths are those of their places. -/
def Tree.identity (tree : Tree) (path : String) : List Component :=
  match tree.canonical? path with
  | some place => .root :: place.map .normal
  | none => components path

def Tree.found? (tree : Tree) (path : String) : Option Content :=
  (tree.canonical? path).bind tree.content?

def Tree.isFile (tree : Tree) (path : String) : Bool :=
  match tree.found? path with
  | some (.file _) => true
  | _ => false

def Tree.isDirectory (tree : Tree) (path : String) : Bool :=
  match tree.found? path with
  | some .directory => true
  | _ => false

/-- What is read at a place are the bytes of a file. -/
def Tree.bytesAt (tree : Tree) (place : Place) : Except Fault ByteArray :=
  if !tree.isOpen place then .error .permissionDenied
  else
    match tree.content? place with
    | some (.file bytes) => .ok bytes
    | some .directory => .error .isADirectory
    | _ => .error .notFound

/-- This function reads the bytes of a file. -/
def Tree.readBytes (tree : Tree) (path : String) : Except Fault ByteArray :=
  (tree.locate path).bind tree.bytesAt

/-- A text file holds valid UTF-8. -/
def Tree.readText (tree : Tree) (path : String) : Except Fault String :=
  match tree.readBytes path with
  | .error fault => .error fault
  | .ok bytes =>
      match String.fromUTF8? bytes with
      | some text => .ok text
      | none => .error .notText

/-- The names in a directory come in no particular order. -/
def Tree.names (tree : Tree) (place : Place) : List String :=
  tree.entries.filterMap fun entry =>
    if entry.1.dropLast = place then entry.1.getLast? else none

/-- Only an open directory tells its names. -/
def Tree.list (tree : Tree) (place : Place) : Except Fault (List String) :=
  match tree.content? place with
  | some .directory =>
      if tree.isOpen place then .ok (tree.names place) else .error .permissionDenied
  | _ => .error .notADirectory

end OperationCheck.Files
