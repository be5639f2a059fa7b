import OperationCheck.Rules.Registry

/-!
Histories of a registry. The operations on a registry amount to a sequence of offers. The main
statement says that the registry holds, under each name, the last offer among those of the highest
priority.
-/

namespace OperationCheck.Rules

open OperationCheck.Files

/-- Tables are offered by the program, by a caller, or from a directory of any tree. -/
inductive Operation where
  | addBuiltIn
  | add (offered : Held)
  | loadDirectory (tree : Tree) (directory : Directory)

/-- A directory that cannot be read leaves a registry as it is. -/
def Registry.apply (registry : Registry) : Operation → Registry
  | .addBuiltIn => registry.addBuiltIn
  | .add offered => registry.offer offered
  | .loadDirectory tree directory =>
      match (registry.loadDirectory tree directory).result with
      | .ok (loaded, _) => loaded
      | .error _ => registry

/-- A registry begins without tables. -/
def Registry.run (operations : List Operation) : Registry := operations.foldl apply empty

/-- Something that cannot be listed has no table files. -/
def Directory.files (directory : Directory) (tree : Tree) : List String :=
  match tree.locate directory.path with
  | .error _ => []
  | .ok place =>
      match tree.list place with
      | .ok names => tablePaths directory.path names
      | .error _ => []

/-- A file that does not hold a table is not offered. -/
def Directory.offer? (directory : Directory) (tree : Tree) (path : String) : Option Held :=
  (readTable tree path).toOption.map fun table => ⟨table, directory.priority, some path⟩

/-- The offers of an operation are in the order in which they are made. -/
def Operation.offers : Operation → List Held
  | .addBuiltIn => Registry.builtInOffers
  | .add offered => [offered]
  | .loadDirectory tree directory => (directory.files tree).filterMap (directory.offer? tree)

def history (operations : List Operation) : List Held := operations.flatMap Operation.offers

/-- A file that does not hold a table gives a warning instead. -/
def warning? (tree : Tree) (path : String) : Option Warning :=
  (errorOf (readTable tree path)).map fun error => .skippedTable path error.message

/-- A file either makes an offer or gives a warning. -/
theorem offer_or_warning (directory : Directory) (tree : Tree) (path : String) :
    (∃ table, readTable tree path = .ok table ∧ warning? tree path = none ∧
      directory.offer? tree path = some ⟨table, directory.priority, some path⟩) ∨
    ∃ error, readTable tree path = .error error ∧ directory.offer? tree path = none ∧
      warning? tree path = some (.skippedTable path error.message) := by
  unfold Directory.offer? warning?
  cases readTable tree path with
  | ok table => exact .inl ⟨table, rfl, rfl, rfl⟩
  | error error => exact .inr ⟨error, rfl, rfl, rfl⟩

/-- Reading the files of a directory gives the offers of those that hold tables, and the warnings of
all others. -/
theorem readOffers_eq (tree : Tree) (directory : Directory) (paths : List String) :
    readOffers tree directory.priority paths =
      ⟨.ok (paths.filterMap (directory.offer? tree)), paths.filterMap (warning? tree)⟩ := by
  induction paths with
  | nil => rfl
  | cons path paths ih =>
      rcases offer_or_warning directory tree path with
        ⟨table, valid, noWarning, offered⟩ | ⟨error, invalid, noOffer, warned⟩
      · rw [List.filterMap_cons_some offered, List.filterMap_cons_none noWarning, readOffers, valid]
        simp only [ih]
        exact congrArg _ (List.append_nil _)
      · rw [List.filterMap_cons_none noOffer, List.filterMap_cons_some warned, readOffers, invalid]
        simp only [ih]
        rfl

/-- Something that is there must be an open directory to hold tables. -/
def Directory.error? (directory : Directory) (tree : Tree) : Option RegistryError :=
  match tree.locate directory.path with
  | .error _ => none
  | .ok place =>
      match tree.list place with
      | .ok _ => none
      | .error fault => some (.unreadableDirectory directory.path fault)

/-- A directory is read completely unless it cannot be listed. -/
theorem directoryOffers_eq (tree : Tree) (directory : Directory) :
    directoryOffers tree directory =
      ⟨resultOf (directory.error? tree) ((directory.files tree).filterMap (directory.offer? tree)),
        (directory.files tree).filterMap (warning? tree)⟩ := by
  unfold directoryOffers Directory.error? Directory.files
  cases tree.locate directory.path with
  | error fault => rfl
  | ok place =>
      dsimp only
      cases tree.list place with
      | ok names => exact readOffers_eq tree directory _
      | error fault => rfl

/-- The offers of a directory fail where listing it does, and are those of its table files
otherwise. -/
theorem directoryOffers_result (tree : Tree) (directory : Directory) :
    (directoryOffers tree directory).result =
      resultOf (directory.error? tree)
        ((directory.files tree).filterMap (directory.offer? tree)) := by
  rw [directoryOffers_eq]

/-- Something that cannot be listed has no files. -/
theorem files_of_error {tree : Tree} {directory : Directory} {error : RegistryError}
    (failed : directory.error? tree = some error) : directory.files tree = [] := by
  cases located : tree.locate directory.path with
  | error fault => simp only [Directory.files, located]
  | ok place =>
      simp only [Directory.error?, located] at failed
      simp only [Directory.files, located]
      cases listed : tree.list place with
      | ok names =>
          rw [listed] at failed
          cases failed
      | error fault => rfl

/-- Every operation only makes its offers, one after another. -/
theorem apply_eq_offerAll (registry : Registry) (operation : Operation) :
    registry.apply operation = registry.offerAll operation.offers := by
  cases operation with
  | addBuiltIn => simp only [Registry.apply, Registry.addBuiltIn, Operation.offers]
  | add offered => rfl
  | loadDirectory tree directory =>
      simp only [Registry.apply, Registry.loadDirectory, Operation.offers, Outcome.result_bind,
        Outcome.result_pure]
      rw [directoryOffers_result]
      cases failed : directory.error? tree with
      | none => rfl
      | some error =>
          rw [files_of_error failed]
          rfl

/-- A run over a registry makes the offers of its history, one after the other. -/
theorem run_eq_offerAll (operations : List Operation) :
    Registry.run operations = Registry.empty.offerAll (history operations) := by
  have general (registry : Registry) :
      operations.foldl Registry.apply registry = registry.offerAll (history operations) := by
    induction operations generalizing registry with
    | nil => rfl
    | cons operation rest ih =>
        rw [List.foldl_cons, ih, apply_eq_offerAll]
        simp only [history, List.flatMap_cons, Registry.offerAll, List.foldl_append]
  exact general Registry.empty

/-- The directories offer all their tables to a registry, one directory after another. -/
def Registry.offerDirectories (registry : Registry) (tree : Tree)
    (directories : List Directory) : Registry :=
  registry.offerAll (history (directories.map (Operation.loadDirectory tree)))

/-- The first directory that is not one fails the whole. -/
theorem loadDirectories_result (tree : Tree) (registry : Registry)
    (directories : List Directory) :
    (Registry.loadDirectories tree registry directories).result =
      resultOf (directories.findSome? fun directory => directory.error? tree)
        (registry.offerDirectories tree directories) := by
  induction directories generalizing registry with
  | nil => rfl
  | cons directory rest ih =>
      simp only [Registry.loadDirectories, Registry.loadDirectory, Outcome.result_bind,
        Outcome.result_pure, directoryOffers_result, List.findSome?_cons]
      cases directory.error? tree with
      | some error => rfl
      | none =>
          simp only [resultOf_none, Except.bind, ih]
          simp only [Registry.offerDirectories, history, List.map_cons, List.flatMap_cons,
            Registry.offerAll, List.foldl_append, Operation.offers]

/-- An offer wins when no other one of its name has a higher priority, and no later one has the
same. -/
def Wins (offers : List Held) (name : String) (winner : Held) : Prop :=
  ∃ earlier later, offers = earlier ++ winner :: later ∧ winner.table.name = name ∧
    (∀ offered ∈ earlier, offered.table.name = name →
      offered.priority.rank ≤ winner.priority.rank) ∧
    ∀ offered ∈ later, offered.table.name = name →
      offered.priority.rank < winner.priority.rank

theorem Wins.name_eq {offers : List Held} {name : String} {winner : Held}
    (wins : Wins offers name winner) : winner.table.name = name := by
  obtain ⟨_, _, _, named, _⟩ := wins
  exact named

theorem Wins.mem {offers : List Held} {name : String} {winner : Held}
    (wins : Wins offers name winner) : winner ∈ offers := by
  obtain ⟨earlier, later, rfl, _⟩ := wins
  simp

/-- No offer of the name has a higher priority than the winner. -/
theorem Wins.highest {offers : List Held} {name : String} {winner offered : Held}
    (wins : Wins offers name winner) (member : offered ∈ offers)
    (named : offered.table.name = name) : offered.priority.rank ≤ winner.priority.rank := by
  obtain ⟨earlier, later, rfl, _, before, after⟩ := wins
  rcases List.mem_append.1 member with early | late
  · exact before offered early named
  · rcases List.mem_cons.1 late with rfl | late
    · exact Nat.le_refl _
    · exact Nat.le_of_lt (after offered late named)

/-- There is only one winner. -/
theorem Wins.unique {offers : List Held} {name : String} {first second : Held}
    (firstWins : Wins offers name first) (secondWins : Wins offers name second) :
    first = second := by
  have firstHighest := firstWins.highest secondWins.mem secondWins.name_eq
  have secondHighest := secondWins.highest firstWins.mem firstWins.name_eq
  obtain ⟨earlier, later, split, named, _, after⟩ := firstWins
  obtain ⟨earlier', later', split', named', _, after'⟩ := secondWins
  rcases List.append_eq_append_iff.1 (split.symm.trans split') with
    ⟨between, _, tail⟩ | ⟨between, _, tail⟩
  · cases between with
    | nil => exact (List.cons.inj tail).1
    | cons head rest =>
        have late : second ∈ later := by
          rw [(List.cons.inj tail).2]
          simp
        have lower := after second late named'
        omega
  · cases between with
    | nil => exact (List.cons.inj tail).1.symm
    | cons head rest =>
        have late : first ∈ later' := by
          rw [(List.cons.inj tail).2]
          simp
        have lower := after' first late named
        omega

/-- A registry reflects a sequence of offers when it holds the winner of each name, and nothing
under a name that was not offered. -/
def Registry.Reflects (registry : Registry) (offers : List Held) : Prop :=
  ∀ name, match registry.get? name with
    | some held => Wins offers name held
    | none => ∀ offered ∈ offers, offered.table.name ≠ name

/-- Before any offer the registry holds nothing. -/
theorem reflects_empty : Registry.empty.Reflects [] := by
  intro name offered member
  cases member

/-- An offer of another name does not change who wins. -/
theorem Wins.append_other {offers : List Held} {name : String} {winner offered : Held}
    (wins : Wins offers name winner) (other : offered.table.name ≠ name) :
    Wins (offers ++ [offered]) name winner := by
  obtain ⟨earlier, later, rfl, named, before, after⟩ := wins
  refine ⟨earlier, later ++ [offered], by simp, named, before, fun late member isNamed => ?_⟩
  rcases List.mem_append.1 member with old | new
  · exact after late old isNamed
  · exact absurd (List.mem_singleton.1 new ▸ isNamed) other

/-- An offer of a lower priority loses. -/
theorem Wins.append_lower {offers : List Held} {name : String} {winner offered : Held}
    (wins : Wins offers name winner) (lower : offered.priority.rank < winner.priority.rank) :
    Wins (offers ++ [offered]) name winner := by
  obtain ⟨earlier, later, rfl, named, before, after⟩ := wins
  refine ⟨earlier, later ++ [offered], by simp, named, before, fun late member isNamed => ?_⟩
  rcases List.mem_append.1 member with old | new
  · exact after late old isNamed
  · exact List.mem_singleton.1 new ▸ lower

/-- An offer wins over all earlier ones when none of them has a higher priority. -/
theorem wins_last {offers : List Held} {offered : Held}
    (highest : ∀ earlier ∈ offers, earlier.table.name = offered.table.name →
      earlier.priority.rank ≤ offered.priority.rank) :
    Wins (offers ++ [offered]) offered.table.name offered :=
  ⟨offers, [], rfl, rfl, highest, by simp⟩

/-- One offer keeps a registry in step with the offers that were made. -/
theorem Registry.Reflects.offer {registry : Registry} {offers : List Held}
    (reflects : registry.Reflects offers) (offered : Held) :
    (registry.offer offered).Reflects (offers ++ [offered]) := by
  intro name
  have old := reflects name
  rw [get_offer]
  by_cases same : offered.table.name = name
  · subst same
    simp only [↓reduceIte]
    cases found : registry.get? offered.table.name with
    | none =>
        rw [found] at old
        exact wins_last fun earlier member named => absurd named (old earlier member)
    | some held =>
        rw [found] at old
        -- An offer of the same priority takes the place of the held one, since it comes later.
        by_cases lower : offered.priority.rank < held.priority.rank
        · simp only [lower, ↓reduceIte]
          exact old.append_lower lower
        · simp only [lower, ↓reduceIte]
          exact wins_last fun earlier member named =>
            Nat.le_trans (old.highest member named) (Nat.le_of_not_lt lower)
  · simp only [same, ↓reduceIte]
    cases found : registry.get? name with
    | none =>
        rw [found] at old
        intro earlier member
        rcases List.mem_append.1 member with known | new
        · exact old earlier known
        · exact List.mem_singleton.1 new ▸ same
    | some held =>
        rw [found] at old
        exact old.append_other same

/-- A registry that holds the winners of the offers so far holds those of all of them after more. -/
theorem Registry.Reflects.offerAll {registry : Registry} {before : List Held}
    (reflects : registry.Reflects before) (offers : List Held) :
    (registry.offerAll offers).Reflects (before ++ offers) := by
  induction offers generalizing registry before with
  | nil => simpa [Registry.offerAll] using reflects
  | cons offered rest ih =>
      have next := ih (reflects.offer offered)
      rwa [List.append_assoc] at next

/-- After any run the registry holds the winners of its history. -/
theorem run_reflects (operations : List Operation) :
    (Registry.run operations).Reflects (history operations) := by
  rw [run_eq_offerAll]
  exact reflects_empty.offerAll (history operations)

/-- Each table is held under its own name. -/
def Registry.IsNamed (registry : Registry) : Prop :=
  ∀ entry ∈ registry.entries, entry.2.table.name = entry.1

/-- An offer is put under the name of its own table. -/
theorem Registry.IsNamed.offer {registry : Registry} (named : registry.IsNamed)
    (offered : Held) : (registry.offer offered).IsNamed := by
  have inserted : (registry.insert offered.table.name offered).IsNamed := by
    intro entry member
    rcases mem_put member with rfl | old
    · rfl
    · exact named entry old
  unfold Registry.offer
  split
  · split
    · exact named
    · exact inserted
  · exact inserted

/-- Any number of offers leaves every table under its own name. -/
theorem Registry.IsNamed.offerAll {registry : Registry} (named : registry.IsNamed)
    (offers : List Held) : (registry.offerAll offers).IsNamed := by
  induction offers generalizing registry with
  | nil => exact named
  | cons offered rest ih => exact ih (named.offer offered)

/-- After any operations, the table under a name is the last offer among those of the highest
priority. There is one exactly when a table of that name was offered, and it is held under its own
name. -/
theorem run_holds_winners (operations : List Operation) (name : String) :
    (∀ held, (Registry.run operations).get? name = some held ↔
      Wins (history operations) name held) ∧
    ((∃ held, (Registry.run operations).get? name = some held) ↔
      ∃ offered ∈ history operations, offered.table.name = name) ∧
    (Registry.run operations).IsNamed := by
  have reflects := run_reflects operations name
  refine ⟨fun held => ⟨fun found => ?_, fun wins => ?_⟩, ⟨?_, ?_⟩, ?_⟩
  · rwa [found] at reflects
  · cases found : (Registry.run operations).get? name with
    | none =>
        rw [found] at reflects
        exact absurd wins.name_eq (reflects held wins.mem)
    | some other =>
        rw [found] at reflects
        rw [reflects.unique wins]
  · rintro ⟨held, found⟩
    rw [found] at reflects
    exact ⟨held, reflects.mem, reflects.name_eq⟩
  · rintro ⟨offered, member, named⟩
    cases found : (Registry.run operations).get? name with
    | none =>
        rw [found] at reflects
        exact absurd named (reflects offered member)
    | some held => exact ⟨held, rfl⟩
  · rw [run_eq_offerAll]
    have empty : Registry.empty.IsNamed := by
      intro entry member
      cases member
    exact empty.offerAll (history operations)

end OperationCheck.Rules
