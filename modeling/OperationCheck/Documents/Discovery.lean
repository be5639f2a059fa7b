import OperationCheck.Files.Walk

/-!
Finding the files of documents. A pointer names one file, or it is a directory followed by a glob
for the files below it.
-/

namespace OperationCheck.Documents

open OperationCheck.Files

/-- Relative pointers begin at a root. Some files are never taken as documents. -/
structure Finder where
  root : String
  excluded : List String
deriving Repr, DecidableEq

inductive DocumentError where
  | invalidPattern (pointer : String)
  | brokenWalk (base : String) (fault : Fault)
  | unreadable (path : String) (fault : Fault)
deriving Repr, DecidableEq

def DocumentError.message : DocumentError → String
  | .invalidPattern pointer => "Invalid document pattern '" ++ pointer ++ "'"
  | .brokenWalk base _ => "Failed to walk " ++ base
  | .unreadable path _ => "Failed to read document " ++ path

def globMarks : List Char := ['*', '?', '[', '\x7b']

/-- A name with one of the marks of globs begins the pattern of a pointer. -/
def isGlobComponent : Component → Bool
  | .normal name => name.toList.any globMarks.contains
  | _ => false

/-- A path is written with slashes between its components. -/
def pathOf : List Component → String
  | .root :: rest => "/" ++ "/".intercalate (rest.map Component.text)
  | components => "/".intercalate (components.map Component.text)

/-- The first part of a pointer is its longest literal beginning, and the second one is the
pattern. -/
def splitGlob (pointer : String) : String × String :=
  let named := (components pointer).filter (· ≠ .current)
  (pathOf (named.takeWhile fun component => !isGlobComponent component),
    pathOf (named.dropWhile fun component => !isGlobComponent component))

/-- Two stars in a row occur in a pattern. -/
def hasTwoStars : List Char → Bool
  | '*' :: '*' :: _ => true
  | _ :: rest => hasTwoStars rest
  | [] => false

/-- Without two stars, a pattern is taken to go no deeper than its number of parts. -/
def depthBound (pattern : String) : Option Nat :=
  if hasTwoStars pattern.toList then none else some (pieces pattern).length

/-- A pointer without a pattern stands for all files below its directory. -/
def patternOrAll (pattern : String) : String := if pattern = "" then "**" else pattern

/-- These are the files below a directory that a pattern accepts, unless the walk fails. -/
def matchBelow (tree : Tree) (base : Place) (pattern : String) (glob : Glob) :
    Except Fault (List (List String)) :=
  (tree.boundedWalk (depthBound pattern) base).map fun files =>
    files.filter fun relative => glob.accepts ("/".intercalate relative)

/-- The directory of a pointer is its literal beginning, seen from the root. -/
def Finder.base (finder : Finder) (pointer : String) : String :=
  let (literal, _) := splitGlob pointer
  if literal = "" then finder.root else join finder.root literal

/-- The files of a pointer are in the order of their paths. -/
def Finder.found (finder : Finder) (tree : Tree) (pointer : String) :
    Except DocumentError (List String) :=
  let direct := join finder.root pointer
  if tree.isFile direct then .ok [direct]
  else
    let (_, rest) := splitGlob pointer
    let base := finder.base pointer
    match tree.canonical? base, tree.isDirectory base with
    | some place, true =>
        match Glob.parse? (patternOrAll rest) with
        | none => .error (.invalidPattern pointer)
        | some glob =>
            ((matchBelow tree place (patternOrAll rest) glob).map fun files =>
              (files.map fun relative => join base ("/".intercalate relative)).mergeSort
                pathLe).mapError (DocumentError.brokenWalk base)
    | _, _ => .ok []

/-- An excluded file is known by its place, however it is spelled. -/
def Finder.excludes (finder : Finder) (tree : Tree) (path : String) : Bool :=
  finder.excluded.any fun excluded =>
    tree.identity (join finder.root excluded) = tree.identity path

/-- This function finds the files of a pointer that are not excluded. -/
def Finder.discover (finder : Finder) (tree : Tree) (pointer : String) :
    Except DocumentError (List String) :=
  (finder.found tree pointer).map fun files =>
    files.filter fun file => !finder.excludes tree file

end OperationCheck.Documents
