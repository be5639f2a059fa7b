import OperationCheck.Files.Walk
import OperationCheck.Proofs.Files.Path

/-!
Walks of well-formed trees. The entries of such a tree have distinct places and proper names, and
adding an entry keeps it well-formed. The main statements say that a walk yields no file twice, and
that it is stopped if and only if a closed directory stands in its way.
-/

namespace OperationCheck.Files

/-- The entries of a tree have distinct places, and all names in them are proper ones. -/
structure Tree.IsWellFormed (tree : Tree) : Prop where
  distinct : (tree.entries.map Prod.fst).Nodup
  named : ∀ entry ∈ tree.entries, ∀ name ∈ entry.1, IsEntryName name

/-- Whether a tree is well-formed is told by its places. -/
theorem Tree.isWellFormed_iff {tree : Tree} :
    tree.IsWellFormed ↔ (tree.entries.map Prod.fst).Nodup ∧
      ∀ place ∈ tree.entries.map Prod.fst, ∀ name ∈ place,
        name ≠ "" ∧ name ≠ "." ∧ name ≠ ".." ∧ '/' ∉ name.toList := by
  constructor
  · rintro ⟨distinct, named⟩
    refine ⟨distinct, fun place member name inPlace => ?_⟩
    obtain ⟨entry, inEntries, rfl⟩ := List.mem_map.1 member
    obtain ⟨nonempty, notCurrent, notParent, noSlash⟩ := named entry inEntries name inPlace
    exact ⟨nonempty, notCurrent, notParent, noSlash⟩
  · rintro ⟨distinct, named⟩
    refine ⟨distinct, fun entry member name inPlace => ?_⟩
    obtain ⟨nonempty, notCurrent, notParent, noSlash⟩ :=
      named entry.1 (List.mem_map_of_mem member) name inPlace
    exact ⟨nonempty, notCurrent, notParent, noSlash⟩

/-- A tree without entries is well-formed. -/
theorem Tree.isWellFormed_empty (home : Place) : Tree.IsWellFormed ⟨[], home, []⟩ :=
  ⟨List.nodup_nil, nofun⟩

/-- A tree stays well-formed when one entry is added. -/
theorem Tree.IsWellFormed.addEntry {tree : Tree} (wellFormed : tree.IsWellFormed) {place : Place}
    (areNames : ∀ name ∈ place, IsEntryName name) (content : Content) :
    (tree.addEntry place content).IsWellFormed := by
  unfold Tree.addEntry
  split
  · exact wellFormed
  · next isNew =>
      have absent : place ∉ tree.entries.map Prod.fst := by
        unfold Tree.content? at isNew
        split at isNew
        · cases isNew
        · intro member
          obtain ⟨entry, inEntries, same⟩ := List.mem_map.1 member
          have other := List.lookup_eq_none_iff.1 isNew entry inEntries
          exact bne_iff_ne.1 other same.symm
      constructor
      · rw [List.map_append, List.nodup_append]
        refine ⟨wellFormed.distinct, List.pairwise_singleton _ _, ?_⟩
        rintro first inFirst second inSecond rfl
        obtain rfl : first = place := List.mem_singleton.1 inSecond
        exact absent inFirst
      · intro entry member
        rcases List.mem_append.1 member with earlier | new
        · exact wellFormed.named entry earlier
        · rw [List.mem_singleton.1 new]
          exact areNames

/-- A tree stays well-formed when an entry with a proper place is added. -/
theorem Tree.IsWellFormed.add {tree : Tree} (wellFormed : tree.IsWellFormed) {place : Place}
    (areNames : ∀ name ∈ place, IsEntryName name) (content : Content) :
    (tree.add place content).IsWellFormed := by
  have within : ∀ above ∈ ancestors place, ∀ name ∈ above, IsEntryName name := by
    intro above member name inAbove
    obtain ⟨count, -, rfl⟩ := List.mem_map.1 member
    exact areNames name (List.mem_of_mem_take inAbove)
  have above : ∀ places : List Place, (∀ place ∈ places, ∀ name ∈ place, IsEntryName name) →
      ∀ tree : Tree, tree.IsWellFormed →
        (places.foldl (fun tree place => tree.addEntry place .directory) tree).IsWellFormed := by
    intro places
    induction places with
    | nil => exact fun _ tree wellFormed => wellFormed
    | cons first places ih =>
        intro named tree wellFormed
        obtain ⟨isNamed, others⟩ := List.forall_mem_cons.1 named
        exact ih others _ (wellFormed.addEntry isNamed .directory)
  exact (above _ within tree wellFormed).addEntry areNames content

/-- A relative path leads from the base to its place, and it is not empty. -/
theorem relativeTo_eq_some {base place : Place} {relative : List String}
    (isRelative : relativeTo? base place = some relative) :
    place = base ++ relative ∧ relative ≠ [] := by
  unfold relativeTo? at isRelative
  split at isRelative
  · next below =>
      obtain rfl := Option.some.inj isRelative
      rw [Bool.and_eq_true, List.isPrefixOf_iff_prefix, decide_eq_true_eq] at below
      obtain ⟨⟨rest, rfl⟩, longer⟩ := below
      rw [List.drop_left]
      refine ⟨rfl, fun none => ?_⟩
      rw [none, List.append_nil] at longer
      exact Nat.lt_irrefl _ longer
  · cases isRelative

/-- What is at a place other than the root is an entry. -/
theorem Tree.entry_of_content {tree : Tree} {place : Place} {content : Content}
    (nonempty : place ≠ []) (isContent : tree.content? place = some content) :
    (place, content) ∈ tree.entries := by
  rw [Tree.content?, if_neg (by simpa using nonempty)] at isContent
  obtain ⟨front, back, isSplit, -⟩ := List.lookup_eq_some_iff.1 isContent
  rw [isSplit]
  exact List.mem_append_right _ List.mem_cons_self

/-- A place below a base is known by what is behind the base. -/
theorem relativeTo_append (base : Place) {relative : List String} (nonempty : relative ≠ []) :
    relativeTo? base (base ++ relative) = some relative := by
  have below : (base.isPrefixOf (base ++ relative) &&
      decide (base.length < (base ++ relative).length)) = true := by
    rw [Bool.and_eq_true, List.isPrefixOf_iff_prefix, decide_eq_true_eq, List.length_append]
    exact ⟨List.prefix_append base relative,
      Nat.lt_add_of_pos_right (List.length_pos_iff.2 nonempty)⟩
  rw [relativeTo?, if_pos below, List.drop_left]

/-- What a walk reaches is an entry below its base, in directories that are all entered. -/
theorem Tree.mem_reached {tree : Tree} {isKind : Place → Bool} {base : Place}
    {relative : List String} : relative ∈ tree.reached isKind base ↔
    relative ≠ [] ∧ isKind (base ++ relative) = true ∧ tree.isOpen base = true ∧
      (∀ place ∈ between base relative, tree.isEntered place = true) ∧
      ∃ content, (base ++ relative, content) ∈ tree.entries := by
  constructor
  · intro member
    obtain ⟨⟨place, content⟩, inEntries, isRelative⟩ := List.mem_filterMap.1 member
    obtain ⟨isRelative, isTaken⟩ := Option.filter_eq_some_iff.1 isRelative
    obtain ⟨rfl, nonempty⟩ := relativeTo_eq_some isRelative
    rw [Bool.and_eq_true, Bool.and_eq_true] at isTaken
    obtain ⟨⟨ofKind, isOpen⟩, entered⟩ := isTaken
    exact ⟨nonempty, ofKind, isOpen, List.all_eq_true.1 entered, content, inEntries⟩
  · rintro ⟨nonempty, ofKind, isOpen, entered, content, inEntries⟩
    refine List.mem_filterMap.2 ⟨(base ++ relative, content), inEntries, ?_⟩
    dsimp only
    rw [relativeTo_append base nonempty, Option.filter_eq_some_iff]
    exact ⟨rfl, by rw [ofKind, isOpen, List.all_eq_true.2 entered]; rfl⟩

/-- A file of a walk has an entry below the base. -/
theorem Tree.exists_entry_of_walk {tree : Tree} {base : Place} {relative : List String}
    (member : relative ∈ tree.walk base) :
    relative ≠ [] ∧ ∃ content, (base ++ relative, content) ∈ tree.entries := by
  obtain ⟨nonempty, -, -, -, inEntries⟩ := Tree.mem_reached.1 member
  exact ⟨nonempty, inEntries⟩

/-- A walk goes through open directories to files. -/
theorem Tree.contents_of_walk {tree : Tree} {base : Place} {relative : List String}
    (member : relative ∈ tree.walk base) :
    (∃ bytes, tree.content? (base ++ relative) = some (.file bytes)) ∧
      tree.isOpen base = true ∧
      ∀ place ∈ between base relative,
        tree.content? place = some .directory ∧ tree.isOpen place = true := by
  obtain ⟨-, isFile, isOpen, entered, -⟩ := Tree.mem_reached.1 member
  refine ⟨?_, isOpen, fun place inBetween => ?_⟩
  · unfold Tree.isWalkedFile at isFile
    split at isFile
    · next bytes isContent => exact ⟨bytes, isContent⟩
    · cases isFile
  · have isEntered := entered place inBetween
    unfold Tree.isEntered at isEntered
    split at isEntered
    · next isDirectory => exact ⟨isDirectory, (Bool.and_eq_true_iff.1 isEntered).1⟩
    · cases isEntered

/-- The names on the way to a file of a walk are proper ones. -/
theorem Tree.IsWellFormed.names_of_walk {tree : Tree} (wellFormed : tree.IsWellFormed)
    {base : Place} {relative : List String} (member : relative ∈ tree.walk base) :
    ∀ name ∈ relative, IsEntryName name := fun name inRelative =>
  have ⟨_, _, inEntries⟩ := Tree.exists_entry_of_walk member
  wellFormed.named _ inEntries name (List.mem_append_right base inRelative)

/-- A walk yields no file twice. -/
theorem Tree.IsWellFormed.walk_nodup {tree : Tree} (wellFormed : tree.IsWellFormed)
    (base : Place) : (tree.walk base).Nodup := by
  have distinct := List.pairwise_map.1 wellFormed.distinct
  refine distinct.filterMap _ fun first second other relative isFirst relative' isSecond => ?_
  obtain ⟨isFirst, -⟩ := Option.filter_eq_some_iff.1 isFirst
  obtain ⟨isSecond, -⟩ := Option.filter_eq_some_iff.1 isSecond
  rintro rfl
  exact other ((relativeTo_eq_some isFirst).1.trans (relativeTo_eq_some isSecond).1.symm)

/-- A closed directory stands in the way of a walk. The walk begins there, or it gets there through
directories that it enters, and its bound allows it to go on. -/
structure Tree.Bars (tree : Tree) (bound : Option Nat) (base : Place) (relative : List String) :
    Prop where
  directory : tree.content? (base ++ relative) = some .directory
  closed : base ++ relative ∈ tree.closed
  within : ∀ limit ∈ bound, relative.length < limit
  reached : relative ≠ [] → tree.isOpen base = true ∧
    tree.isSkipped (base ++ relative) true = false ∧
    ∀ place ∈ between base relative, tree.isEntered place = true

/-- What cannot be opened is closed. -/
theorem Tree.isOpen_eq_false_iff {tree : Tree} {place : Place} :
    tree.isOpen place = false ↔ place ∈ tree.closed := by
  rw [Tree.isOpen, Bool.not_eq_false', List.contains_iff_mem]

/-- The barriers below the base of a walk are closed directories that are not skipped. -/
theorem Tree.isBarrier_iff {tree : Tree} {place : Place} : tree.isBarrier place = true ↔
    tree.content? place = some .directory ∧ place ∈ tree.closed ∧
      tree.isSkipped place true = false := by
  unfold Tree.isBarrier
  split
  · next isDirectory =>
      rw [Bool.and_eq_true, Bool.not_eq_true', Bool.not_eq_true', Tree.isOpen_eq_false_iff]
      exact (and_iff_right isDirectory).symm
  · next other => exact iff_of_false Bool.false_ne_true fun found => other found.1

/-- A walk is stopped if and only if a closed directory stands in its way. -/
theorem Tree.isStopped_iff {tree : Tree} {bound : Option Nat} {base : Place}
    (isDirectory : tree.content? base = some .directory) :
    tree.isStopped bound base = true ↔ ∃ relative, tree.Bars bound base relative := by
  have within (relative : List String) : bound.all (fun limit => relative.length < limit) = true ↔
      ∀ limit ∈ bound, relative.length < limit := by
    cases bound <;> simp
  unfold Tree.isStopped Tree.barriers
  rw [List.any_eq_true]
  cases isOpen : tree.isOpen base with
  | false =>
      rw [if_neg Bool.false_ne_true]
      constructor
      · rintro ⟨relative, member, isWithin⟩
        obtain rfl := List.mem_singleton.1 member
        rw [← List.append_nil base] at isDirectory isOpen
        exact ⟨[], isDirectory, Tree.isOpen_eq_false_iff.1 isOpen, (within []).1 isWithin,
          fun nonempty => absurd rfl nonempty⟩
      · rintro ⟨relative, bars⟩
        cases relative with
        | nil => exact ⟨[], List.mem_singleton.2 rfl, (within []).2 bars.within⟩
        | cons => cases isOpen.symm.trans (bars.reached (List.cons_ne_nil _ _)).1
  | true =>
      rw [if_pos rfl]
      constructor
      · rintro ⟨relative, member, isWithin⟩
        obtain ⟨-, isBarrier, -, entered, -⟩ := Tree.mem_reached.1 member
        obtain ⟨isContent, isClosed, notSkipped⟩ := Tree.isBarrier_iff.1 isBarrier
        exact ⟨relative, isContent, isClosed, (within relative).1 isWithin,
          fun _ => ⟨isOpen, notSkipped, entered⟩⟩
      · rintro ⟨relative, bars⟩
        have nonempty : relative ≠ [] := by
          rintro rfl
          have isClosed := Tree.isOpen_eq_false_iff.2 bars.closed
          rw [List.append_nil] at isClosed
          cases isOpen.symm.trans isClosed
        obtain ⟨-, notSkipped, entered⟩ := bars.reached nonempty
        have isBarrier := Tree.isBarrier_iff.2 ⟨bars.directory, bars.closed, notSkipped⟩
        refine ⟨relative, Tree.mem_reached.2 ⟨nonempty, isBarrier, isOpen, entered, .directory, ?_⟩,
          (within relative).2 bars.within⟩
        exact Tree.entry_of_content (by simp [nonempty]) bars.directory

/-- What stops a bounded walk stops an unbounded one as well. -/
theorem Tree.isStopped_none {tree : Tree} {bound : Option Nat} {base : Place}
    (stopped : tree.isStopped bound base = true) : tree.isStopped none base = true := by
  obtain ⟨relative, isBarrier, -⟩ := List.any_eq_true.1 stopped
  exact List.any_eq_true.2 ⟨relative, isBarrier, rfl⟩

/-- Whether a path can be followed at all is told from its characters. -/
theorem Tree.locate_eq (tree : Tree) (path : String) :
    tree.locate path =
      if path = "" then .error .notFound
      else if '\x00' ∈ path.toList then .error .invalidPath
      else tree.follow linkLimit (if isAbsolute path then [] else tree.home) (pieces path) := by
  rw [Tree.locate, String.contains_char_eq]
  simp only [decide_eq_true_eq]

/-- The place of a path is told from its characters and its pieces. -/
theorem Tree.canonical_eq (tree : Tree) (path : String) :
    tree.canonical? path =
      (if path = "" then .error .notFound
      else if '\x00' ∈ path.toList then .error .invalidPath
      else tree.follow linkLimit (if isAbsolute path then [] else tree.home) (pieces path) :
        Except Fault Place).toOption := by
  rw [Tree.canonical?, tree.locate_eq]

end OperationCheck.Files
