import Mathlib.Data.List.Forall2
import OperationCheck.Files.Walk

/-!
Trees that are told apart only by the bytes of their files. Paths lead to the same places in both,
and walks go through the same directories when the ignore rules are the same.
-/

namespace OperationCheck.Files

/-- Two contents are of the same form. Files may hold different bytes. -/
inductive Content.Resembles : Content → Content → Prop where
  | file (first second : ByteArray) : Resembles (.file first) (.file second)
  | directory : Resembles .directory .directory
  | link (target : String) : Resembles (.link target) (.link target)

/-- Two trees have the same entries up to the bytes of files, and the same ignore rules. The same
directories are open. -/
structure Tree.Resembles (tree other : Tree) : Prop where
  home : tree.home = other.home
  entries : List.Forall₂
    (fun entry otherEntry => entry.1 = otherEntry.1 ∧ entry.2.Resembles otherEntry.2)
    tree.entries other.entries
  opens : ∀ place, tree.content? place = some .directory → tree.isOpen place = other.isOpen place
  rules : ∀ place, tree.directoryRules place = other.directoryRules place

namespace Tree.Resembles

variable {tree other : Tree}

/-- A place has the same content in both trees, unless it is that of a file. -/
theorem content_cases (resembles : tree.Resembles other) (place : Place) :
    tree.content? place = other.content? place ∨
      ∃ first second, tree.content? place = some (.file first) ∧
        other.content? place = some (.file second) := by
  unfold Tree.content?
  split
  · exact .inl rfl
  · have entries := resembles.entries
    generalize tree.entries = items, other.entries = others at entries
    induction entries with
    | nil => exact .inl rfl
    | @cons entry otherEntry items others same _ ih =>
        obtain ⟨key, content⟩ := entry
        obtain ⟨otherKey, otherContent⟩ := otherEntry
        obtain ⟨rfl, contents⟩ := same
        rw [List.lookup_cons, List.lookup_cons]
        dsimp only
        cases place == key with
        | false => exact ih
        | true =>
            cases contents with
            | file first second => exact .inr ⟨first, second, rfl, rfl⟩
            | directory => exact .inl rfl
            | link target => exact .inl rfl

/-- Pieces are followed to the same place when links are. -/
theorem followPieces (resembles : tree.Resembles other)
    (goOn : Place → List String → Except Fault Place) (place : Place) (pieces : List String) :
    tree.followPieces goOn place pieces = other.followPieces goOn place pieces := by
  induction pieces generalizing place with
  | nil => rfl
  | cons piece pieces ih =>
      simp only [Tree.followPieces, ih]
      rcases resembles.content_cases place with same | ⟨_, _, isFile, otherFile⟩
      · cases isContent : tree.content? place with
        | none => rw [← same, isContent]
        | some content =>
            rw [← same, isContent]
            cases content with
            | file | link => rfl
            | directory =>
                dsimp only
                rw [resembles.opens place isContent]
                rcases resembles.content_cases (place ++ [piece]) with
                  same | ⟨_, _, isFile, otherFile⟩
                · rw [same]
                · rw [isFile, otherFile]
      · rw [isFile, otherFile]

theorem follow (resembles : tree.Resembles other) (links : Nat) :
    tree.follow links = other.follow links := by
  induction links with
  | zero =>
      funext place pieces
      exact resembles.followPieces _ place pieces
  | succ links ih =>
      funext place pieces
      rw [Tree.follow, Tree.follow, ih]
      exact resembles.followPieces _ place pieces

theorem canonical (resembles : tree.Resembles other) (path : String) :
    tree.canonical? path = other.canonical? path := by
  rw [Tree.canonical?, Tree.canonical?, Tree.locate, Tree.locate, resembles.home, resembles.follow]

theorem identity (resembles : tree.Resembles other) (path : String) :
    tree.identity path = other.identity path := by
  simp only [Tree.identity, resembles.canonical]

/-- A path leads to the same content in both trees, unless it leads to a file. -/
theorem found_cases (resembles : tree.Resembles other) (path : String) :
    tree.found? path = other.found? path ∨
      ∃ first second, tree.found? path = some (.file first) ∧
        other.found? path = some (.file second) := by
  rw [Tree.found?, Tree.found?, resembles.canonical]
  cases other.canonical? path with
  | none => exact .inl rfl
  | some place => exact resembles.content_cases place

/-- A path leads to a file in both trees or in none. -/
theorem isFile (resembles : tree.Resembles other) (path : String) :
    tree.isFile path = other.isFile path := by
  rw [Tree.isFile, Tree.isFile]
  rcases resembles.found_cases path with same | ⟨_, _, found, otherFound⟩
  · rw [same]
  · rw [found, otherFound]

/-- A path leads to a directory in both trees or in none. -/
theorem isDirectory (resembles : tree.Resembles other) (path : String) :
    tree.isDirectory path = other.isDirectory path := by
  rw [Tree.isDirectory, Tree.isDirectory]
  rcases resembles.found_cases path with same | ⟨_, _, found, otherFound⟩
  · rw [same]
  · rw [found, otherFound]

/-- Walks skip the same entries. -/
theorem isSkipped (resembles : tree.Resembles other) (place : Place) (isDirectory : Bool) :
    tree.isSkipped place isDirectory = other.isSkipped place isDirectory := by
  simp only [Tree.isSkipped, Tree.verdict?, resembles.rules]

theorem isEntered (resembles : tree.Resembles other) (place : Place) :
    tree.isEntered place = other.isEntered place := by
  rw [Tree.isEntered, Tree.isEntered, resembles.isSkipped]
  rcases resembles.content_cases place with same | ⟨_, _, isFile, otherFile⟩
  · rw [← same]
    split
    · next isDirectory => rw [resembles.opens place isDirectory]
    · rfl
  · rw [isFile, otherFile]

/-- The same directories stop a walk in both trees. -/
theorem isBarrier (resembles : tree.Resembles other) (place : Place) :
    tree.isBarrier place = other.isBarrier place := by
  rw [Tree.isBarrier, Tree.isBarrier, resembles.isSkipped]
  rcases resembles.content_cases place with same | ⟨_, _, isFile, otherFile⟩
  · rw [← same]
    split
    · next isDirectory => rw [resembles.opens place isDirectory]
    · rfl
  · rw [isFile, otherFile]

/-- The same places hold files for a walk in both trees. -/
theorem isWalkedFile (resembles : tree.Resembles other) (place : Place) :
    tree.isWalkedFile place = other.isWalkedFile place := by
  rw [Tree.isWalkedFile, Tree.isWalkedFile, resembles.isSkipped]
  rcases resembles.content_cases place with same | ⟨_, _, isFile, otherFile⟩
  · rw [← same]
  · rw [isFile, otherFile]

section walks

variable {base : Place} (isDirectory : tree.content? base = some .directory)

include isDirectory

/-- Walks reach the same entries of a kind in the same order. -/
theorem reached (resembles : tree.Resembles other) (isKind : Place → Bool) :
    tree.reached isKind base = other.reached isKind base := by
  have entered : tree.isEntered = other.isEntered := funext resembles.isEntered
  have entries := resembles.entries
  simp only [Tree.reached, resembles.opens base isDirectory, entered]
  generalize tree.entries = items, other.entries = others at entries
  induction entries with
  | nil => rfl
  | cons same _ ih =>
      rw [List.filterMap_cons, List.filterMap_cons, ih, same.1]

/-- Walks yield the same files in the same order. -/
theorem walk (resembles : tree.Resembles other) : tree.walk base = other.walk base := by
  rw [Tree.walk, Tree.walk, funext resembles.isWalkedFile, resembles.reached isDirectory]

/-- The same barriers stop the walks. -/
theorem isStopped (resembles : tree.Resembles other) (bound : Option Nat) :
    tree.isStopped bound base = other.isStopped bound base := by
  rw [Tree.isStopped, Tree.isStopped, Tree.barriers, Tree.barriers,
    resembles.opens base isDirectory, funext resembles.isBarrier, resembles.reached isDirectory]

/-- Bounded walks end alike. -/
theorem boundedWalk (resembles : tree.Resembles other) (bound : Option Nat) :
    tree.boundedWalk bound base = other.boundedWalk bound base := by
  rw [Tree.boundedWalk, Tree.boundedWalk, resembles.isStopped isDirectory,
    resembles.walk isDirectory]

end walks

end Tree.Resembles

end OperationCheck.Files
