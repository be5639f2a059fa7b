import OperationCheck.Files.Ignore

/-!
Walks below a directory. A walk visits the entries that are neither ignored nor hidden, and it does
not enter directories that it does not visit. Links are visited but not followed. A walk fails at a
directory that it should enter and cannot open.
-/

namespace OperationCheck.Files

/-- A hidden name begins with a dot. -/
def isHidden (place : Place) : Bool :=
  match place.getLast? with
  | some name => name.startsWith "."
  | none => false

/-- A rule that keeps an entry also shows it when it is hidden. -/
def Tree.isSkipped (tree : Tree) (place : Place) (isDirectory : Bool) : Bool :=
  match tree.verdict? place isDirectory with
  | some .ignored => true
  | some .kept => false
  | none => isHidden place

/-- A walk enters an open directory that it does not skip. -/
def Tree.isEntered (tree : Tree) (place : Place) : Bool :=
  match tree.content? place with
  | some .directory => tree.isOpen place && !tree.isSkipped place true
  | _ => false

/-- These are the directories between the base of a walk and an entry. -/
def between (base : Place) (relative : List String) : List Place :=
  (ancestors relative).map (base ++ ·)

/-- A path from the base of a walk to an entry. -/
def relativeTo? (base place : Place) : Option (List String) :=
  if base.isPrefixOf place && base.length < place.length then some (place.drop base.length)
  else none

/-- A walk reaches the entries in directories that are all entered. The result has the paths from
the base to the entries of one kind. -/
def Tree.reached (tree : Tree) (isKind : Place → Bool) (base : Place) : List (List String) :=
  tree.entries.filterMap fun (place, _) =>
    (relativeTo? base place).filter fun relative =>
      isKind place && tree.isOpen base && (between base relative).all tree.isEntered

def Tree.isWalkedFile (tree : Tree) (place : Place) : Bool :=
  match tree.content? place with
  | some (.file _) => !tree.isSkipped place false
  | _ => false

/-- A closed directory that is not skipped stops a walk. -/
def Tree.isBarrier (tree : Tree) (place : Place) : Bool :=
  match tree.content? place with
  | some .directory => !tree.isOpen place && !tree.isSkipped place true
  | _ => false

/-- The files of a walk are those that it reaches and does not skip. -/
def Tree.walk (tree : Tree) (base : Place) : List (List String) :=
  tree.reached tree.isWalkedFile base

/-- These are the base of a walk and the directories it reaches, as far as they are barriers. -/
def Tree.barriers (tree : Tree) (base : Place) : List (List String) :=
  if tree.isOpen base then tree.reached tree.isBarrier base else [[]]

/-- A walk is stopped by a barrier unless its bound keeps it from going on there. -/
def Tree.isStopped (tree : Tree) (bound : Option Nat) (base : Place) : Bool :=
  (tree.barriers base).any fun relative => bound.all (relative.length < ·)

/-- A bounded walk does not go deeper than its bound. -/
def Tree.boundedWalk (tree : Tree) (bound : Option Nat) (base : Place) :
    Except Fault (List (List String)) :=
  if tree.isStopped bound base then .error .permissionDenied
  else .ok ((tree.walk base).filter fun relative => bound.all (relative.length ≤ ·))

end OperationCheck.Files
