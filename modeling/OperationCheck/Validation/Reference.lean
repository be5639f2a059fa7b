/-!
Following references from name to name. A name that is reached from itself is part of a cycle, and
long ways are not followed to their end.
-/

namespace OperationCheck.Validation

/-- An item is added unless it is held already. -/
def addOnce {α : Type} [BEq α] (held : List α) (item : α) : List α :=
  if held.contains item then held else held ++ [item]

/-- The names that are reached in a number of steps come behind the ones they are reached from. -/
def reach (next : String → List String) : Nat → List String → List String
  | 0, names => names
  | steps + 1, names =>
      let more := (names.flatMap next).foldl addOnce names
      if more.length = names.length then names else reach next steps more

/-- A way comes back to its start or it is too long. -/
inductive Trouble where
  | cycle
  | tooLong
deriving Repr, DecidableEq

/-- This function follows every way from its end, in order, to the first trouble. A way does not
cross itself, and only so many names can be added to it. -/
def followWay (next : String → List String) (start : String) :
    Nat → List String → String → Option Trouble
  | room, way, last =>
      (next last).findSome? fun name =>
        if way.contains name then
          if name = start then some .cycle else none
        else
          match room with
          | 0 => some .tooLong
          | room + 1 => followWay next start room (name :: way) name

/-- Trouble on the ways from a name. The limit counts the names of a way. -/
def findTrouble (next : String → List String) (limit : Nat) (start : String) : Option Trouble :=
  followWay next start (limit - 1) [start] start

end OperationCheck.Validation
