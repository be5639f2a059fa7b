import OperationCheck.Proofs.Files.Walk

/-!
Following paths. A path that goes on behind a directory is followed from the place of that
directory, and pieces that name nothing make no difference. The main statement says that the path
to a file of a walk leads to that file.
-/

namespace OperationCheck.Files

/-- These pieces of a path stay in a directory. A dot needs an open one, and so does any name behind
it. -/
def StaysBefore (name piece : String) : Prop := piece = "" ∨ piece = "." ∧ name ≠ ""

section following

variable {goOn : Place → List String → Except Fault Place}

/-- The first piece of a path fails, or it leads to a place, or it is a link. The pieces behind it
do not bear on that. -/
theorem Tree.followPieces_cons (tree : Tree) (place : Place) (piece : String) :
    (∃ fault, ∀ goOn rest, tree.followPieces goOn place (piece :: rest) = .error fault) ∨
      (∃ next, ∀ goOn rest,
        tree.followPieces goOn place (piece :: rest) = tree.followPieces goOn next rest) ∨
      ∃ start target, ∀ goOn rest,
        tree.followPieces goOn place (piece :: rest) = goOn start (target ++ rest) := by
  simp only [Tree.followPieces]
  split
  · split
    · exact .inr (.inl ⟨place, fun _ _ => rfl⟩)
    · split
      · exact .inl ⟨.permissionDenied, fun _ _ => rfl⟩
      · split
        · exact .inr (.inl ⟨place, fun _ _ => rfl⟩)
        · split
          · exact .inr (.inl ⟨place.dropLast, fun _ _ => rfl⟩)
          · split
            · exact .inl ⟨.nameTooLong, fun _ _ => rfl⟩
            · split
              · exact .inl ⟨.notFound, fun _ _ => rfl⟩
              · next target _ =>
                  exact .inr (.inr ⟨if isAbsolute target then [] else place, pieces target,
                    fun _ _ => rfl⟩)
              · exact .inr (.inl ⟨place ++ [piece], fun _ _ => rfl⟩)
  · exact .inl ⟨.notADirectory, fun _ _ => rfl⟩

/-- Nothing is followed from where there is no directory. -/
theorem Tree.followPieces_of_noDirectory {tree : Tree} {place : Place}
    (noDirectory : tree.content? place ≠ some .directory) (name : String) (rest : List String) :
    tree.followPieces goOn place (name :: rest) = .error .notADirectory := by
  rw [Tree.followPieces]
  split
  · next isDirectory => exact absurd isDirectory noDirectory
  · rfl

/-- No name is followed from a closed directory. -/
theorem Tree.followPieces_of_closed {tree : Tree} {place : Place}
    (isDirectory : tree.content? place = some .directory) (closed : tree.isOpen place = false)
    {name : String} (isName : name ≠ "") (rest : List String) :
    tree.followPieces goOn place (name :: rest) = .error .permissionDenied := by
  rw [Tree.followPieces, isDirectory]
  dsimp only
  rw [if_neg isName, closed]
  rfl

/-- A piece that stays needs a directory, and so does the piece behind it. -/
theorem Tree.followPieces_stays {skipped name : String} (stays : StaysBefore name skipped)
    (tree : Tree) (place : Place) (rest : List String) :
    tree.followPieces goOn place (skipped :: name :: rest) =
      tree.followPieces goOn place (name :: rest) := by
  by_cases isDirectory : tree.content? place = some .directory
  · rcases stays with rfl | ⟨rfl, isName⟩
    · rw [Tree.followPieces, isDirectory]
      rfl
    · cases isOpen : tree.isOpen place with
      | false =>
          rw [followPieces_of_closed isDirectory isOpen isName,
            followPieces_of_closed isDirectory isOpen (by decide)]
      | true =>
          rw [Tree.followPieces, isDirectory, isOpen]
          rfl
  · rw [followPieces_of_noDirectory isDirectory, followPieces_of_noDirectory isDirectory]

/-- Pieces that stay make no difference to what is followed up to a link, if they make none behind
it. -/
theorem Tree.followPieces_skip {tree : Tree} {skipped name : String} {rest : List String}
    (stays : StaysBefore name skipped)
    (same : ∀ place front,
      goOn place (front ++ skipped :: name :: rest) = goOn place (front ++ name :: rest))
    (place : Place) (front : List String) :
    tree.followPieces goOn place (front ++ skipped :: name :: rest) =
      tree.followPieces goOn place (front ++ name :: rest) := by
  induction front generalizing place with
  | nil => exact tree.followPieces_stays stays place rest
  | cons piece front ih =>
      rw [List.cons_append, List.cons_append]
      rcases tree.followPieces_cons place piece with
        ⟨fault, fails⟩ | ⟨next, leads⟩ | ⟨start, target, isLink⟩
      · rw [fails, fails]
      · rw [leads, leads, ih]
      · rw [isLink, isLink, ← List.append_assoc, ← List.append_assoc, same]

/-- Pieces that stay can be left out of a path, unless they are its last ones. -/
theorem Tree.follow_skip {skipped name : String} (stays : StaysBefore name skipped) (tree : Tree)
    (links : Nat) (place : Place) (front rest : List String) :
    tree.follow links place (front ++ skipped :: name :: rest) =
      tree.follow links place (front ++ name :: rest) := by
  induction links generalizing place front with
  | zero =>
      rw [Tree.follow]
      exact followPieces_skip stays (fun _ _ => rfl) place front
  | succ links ih =>
      rw [Tree.follow]
      exact followPieces_skip stays ih place front

/-- What is behind a path is followed from the place of the path, or it is handed on with a
link. -/
theorem Tree.followPieces_append {tree : Tree} {place last : Place} {front : List String}
    (found : tree.followPieces goOn place front = .ok last) (back : List String) :
    tree.followPieces goOn place (front ++ back) = tree.followPieces goOn last back ∨
      ∃ start pieces, goOn start pieces = .ok last ∧
        tree.followPieces goOn place (front ++ back) = goOn start (pieces ++ back) := by
  induction front generalizing place with
  | nil =>
      obtain rfl := Except.ok.inj found
      exact .inl rfl
  | cons piece front ih =>
      rw [List.cons_append]
      rcases tree.followPieces_cons place piece with
        ⟨fault, fails⟩ | ⟨next, leads⟩ | ⟨start, target, isLink⟩
      · rw [fails] at found
        cases found
      · rw [leads] at found
        rw [leads]
        exact ih found
      · rw [isLink] at found
        rw [isLink, ← List.append_assoc]
        exact .inr ⟨start, target ++ front, found, rfl⟩

/-- A path goes on from where its front part leads, with what is left of the links. -/
theorem Tree.follow_append {tree : Tree} {links : Nat} {place last : Place} {front : List String}
    (found : tree.follow links place front = .ok last) (back : List String) :
    ∃ left, tree.follow links place (front ++ back) = tree.follow left last back := by
  induction links generalizing place front with
  | zero =>
      rw [Tree.follow] at found
      rcases followPieces_append found back with direct | ⟨_, _, refused, -⟩
      · exact ⟨0, direct⟩
      · cases refused
  | succ links ih =>
      rw [Tree.follow] at found
      rcases followPieces_append found back with direct | ⟨start, pieces, goesOn, linked⟩
      · exact ⟨links + 1, direct⟩
      · obtain ⟨left, isLeft⟩ := ih goesOn
        exact ⟨left, linked.trans isLeft⟩

/-- Names lead from a place through open directories to a file. -/
structure Tree.LeadsToFile (tree : Tree) (place : Place) (names : List String) : Prop where
  named : ∀ name ∈ names, IsEntryName name
  short : ∀ name ∈ names, name.utf8ByteSize ≤ 255
  directories : ∀ count < names.length,
    tree.content? (place ++ names.take count) = some .directory ∧
      tree.isOpen (place ++ names.take count) = true
  isFile : ∃ bytes, tree.content? (place ++ names) = some (.file bytes)

/-- The other names lead on from behind the first one. -/
theorem Tree.LeadsToFile.tail {tree : Tree} {place : Place} {name : String} {names : List String}
    (leads : tree.LeadsToFile place (name :: names)) :
    tree.LeadsToFile (place ++ [name]) names where
  named := (List.forall_mem_cons.1 leads.named).2
  short := (List.forall_mem_cons.1 leads.short).2
  directories count isBelow := by
    simpa using leads.directories (count + 1) (Nat.succ_lt_succ isBelow)
  isFile := by simpa using leads.isFile

/-- The first name is that of the file itself, or of a directory on the way to it. -/
theorem Tree.LeadsToFile.head {tree : Tree} {place : Place} {name : String} {names : List String}
    (leads : tree.LeadsToFile place (name :: names)) :
    tree.content? (place ++ [name]) = some .directory ∨
      ∃ bytes, tree.content? (place ++ [name]) = some (.file bytes) := by
  cases names with
  | nil => exact .inr leads.isFile
  | cons second names =>
      obtain ⟨isDirectory, -⟩ := leads.tail.directories 0 (Nat.succ_pos _)
      rw [List.take_zero, List.append_nil] at isDirectory
      exact .inl isDirectory

/-- Names that lead to a file are followed without a link. -/
theorem Tree.LeadsToFile.followPieces {tree : Tree} {place : Place} {names : List String}
    (leads : tree.LeadsToFile place names) :
    tree.followPieces goOn place names = .ok (place ++ names) := by
  induction names generalizing place with
  | nil => rw [List.append_nil, Tree.followPieces]
  | cons name names ih =>
      have isNext := ih leads.tail
      rw [← List.append_cons] at isNext
      obtain ⟨isDirectory, isOpen⟩ := leads.directories 0 (Nat.succ_pos _)
      rw [List.take_zero, List.append_nil] at isDirectory isOpen
      obtain ⟨nonempty, notCurrent, notParent, -⟩ := leads.named name List.mem_cons_self
      have isShort := leads.short name List.mem_cons_self
      rw [Tree.followPieces, isDirectory, isOpen]
      dsimp only
      rw [if_neg nonempty, Bool.not_true, if_neg Bool.false_ne_true, if_neg notCurrent,
        if_neg notParent, if_neg (Nat.not_lt.2 isShort)]
      rcases leads.head with isEntry | ⟨bytes, isEntry⟩
      · rw [isEntry]
        exact isNext
      · rw [isEntry]
        exact isNext

/-- Names that lead to a file are followed whatever number of links is left. -/
theorem Tree.LeadsToFile.follow {tree : Tree} {place : Place} {names : List String}
    (leads : tree.LeadsToFile place names) (links : Nat) :
    tree.follow links place names = .ok (place ++ names) := by
  cases links with
  | zero => exact leads.followPieces
  | succ links => exact leads.followPieces

end following

/-- All names in a tree are ones that a path can hold. -/
structure Tree.IsNavigable (tree : Tree) : Prop extends tree.IsWellFormed where
  short : ∀ entry ∈ tree.entries, ∀ name ∈ entry.1, name.utf8ByteSize ≤ 255
  noNull : ∀ entry ∈ tree.entries, ∀ name ∈ entry.1, '\x00' ∉ name.toList

/-- Whether a tree is navigable is told by its places. -/
theorem Tree.isNavigable_iff {tree : Tree} :
    tree.IsNavigable ↔ tree.IsWellFormed ∧
      ∀ place ∈ tree.entries.map Prod.fst, ∀ name ∈ place,
        name.utf8ByteSize ≤ 255 ∧ '\x00' ∉ name.toList := by
  constructor
  · rintro ⟨wellFormed, short, noNull⟩
    refine ⟨wellFormed, fun place member name inPlace => ?_⟩
    obtain ⟨entry, inEntries, rfl⟩ := List.mem_map.1 member
    exact ⟨short entry inEntries name inPlace, noNull entry inEntries name inPlace⟩
  · rintro ⟨wellFormed, named⟩
    have ofEntry (entry) (member : entry ∈ tree.entries) :=
      named entry.1 (List.mem_map_of_mem member)
    exact ⟨wellFormed, fun entry member name inPlace => (ofEntry entry member name inPlace).1,
      fun entry member name inPlace => (ofEntry entry member name inPlace).2⟩

/-- A path leads to a place when its pieces do. -/
theorem Tree.locate_eq_ok_iff (tree : Tree) {path : String} {place : Place} :
    tree.locate path = .ok place ↔ path ≠ "" ∧ '\x00' ∉ path.toList ∧
      tree.follow linkLimit (if isAbsolute path then [] else tree.home) (pieces path) =
        .ok place := by
  rw [tree.locate_eq]
  split
  · next empty => simp [empty]
  · next nonempty =>
      split
      · next isNull => simp [isNull]
      · next noNull => simp [nonempty, noNull]

/-- The current directory in front of a path makes no difference. -/
theorem Tree.locate_current (tree : Tree) {path : String} (nonempty : path ≠ "") :
    tree.locate (join "." path) = tree.locate path := by
  cases isRoot : isAbsolute path with
  | true => rw [join_of_absolute isRoot]
  | false =>
      have isText := toList_below "." path
      have isWhole : "." ++ "/" ++ path ≠ "" := fun empty => by
        rw [empty] at isText
        cases isText
      have isRelative : isAbsolute ("." ++ "/" ++ path) = false := by
        refine Bool.eq_false_iff.2 fun isAbsolute => ?_
        obtain ⟨rest, same⟩ := (isAbsolute_iff _).1 isAbsolute
        rw [isText] at same
        cases same
      have sameNull : '\x00' ∈ ("." ++ "/" ++ path).toList ↔ '\x00' ∈ path.toList := by
        rw [isText]
        simp
      rw [join_current isRoot, tree.locate_eq, tree.locate_eq path, if_neg nonempty,
        if_neg isWhole, isRelative, isRoot, pieces_current]
      cases isPieces : pieces path with
      | nil => exact absurd isPieces (pieces_ne_nil path)
      | cons first rest =>
          -- An empty first piece is that of an absolute path, or of the empty one.
          have isName : first ≠ "" := first_piece_ne_empty isPieces isRoot nonempty
          have skipped := tree.follow_skip (.inr ⟨rfl, isName⟩) linkLimit tree.home [] rest
          rw [List.nil_append, List.nil_append] at skipped
          simp only [sameNull, Bool.false_eq_true, if_false, skipped]

theorem canonical_current {tree : Tree} {path : String} (nonempty : path ≠ "") :
    tree.canonical? (join "." path) = tree.canonical? path := by
  rw [Tree.canonical?, tree.locate_current nonempty]
  rfl

/-- The current directory in front of a path does not change what is read. -/
theorem readText_current {tree : Tree} {path : String} (nonempty : path ≠ "") :
    tree.readText (join "." path) = tree.readText path := by
  rw [Tree.readText, Tree.readBytes, tree.locate_current nonempty]
  rfl

/-- The current directory in front of a path does not change whether it leads to a file. -/
theorem isFile_current {tree : Tree} {path : String} (nonempty : path ≠ "") :
    tree.isFile (join "." path) = tree.isFile path := by
  rw [Tree.isFile, Tree.found?, Tree.canonical?, tree.locate_current nonempty]
  rfl

/-- A path with a place is followed to it. -/
theorem locate_of_canonical {tree : Tree} {path : String} {place : Place}
    (isPlace : tree.canonical? path = some place) : tree.locate path = .ok place := by
  unfold Tree.canonical? at isPlace
  cases located : tree.locate path with
  | error => rw [located] at isPlace; cases isPlace
  | ok found =>
      rw [located] at isPlace
      rw [Option.some.inj isPlace]

/-- A file at the end of a path is read if it is open. -/
theorem readBytes_of_canonical {tree : Tree} {path : String} {place : Place} {bytes : ByteArray}
    (isPlace : tree.canonical? path = some place)
    (isFile : tree.content? place = some (.file bytes)) :
    tree.readBytes path =
      if tree.isOpen place then .ok bytes else .error .permissionDenied := by
  rw [Tree.readBytes, locate_of_canonical isPlace, Except.bind, Tree.bytesAt, isFile]
  cases tree.isOpen place <;> rfl

/-- A path with a place is known by that place. -/
theorem Tree.identity_of_canonical {tree : Tree} {path : String} {place : Place}
    (isPlace : tree.canonical? path = some place) :
    tree.identity path = .root :: place.map .normal := by
  rw [Tree.identity, isPlace]

/-- A file has a place. -/
theorem exists_place_of_isFile {tree : Tree} {path : String} (isFile : tree.isFile path = true) :
    ∃ place, tree.canonical? path = some place := by
  unfold Tree.isFile Tree.found? at isFile
  cases isPlace : tree.canonical? path with
  | some place => exact ⟨place, rfl⟩
  | none =>
      rw [isPlace] at isFile
      cases isFile

/-- A path to the place of a file leads to that file. -/
theorem isFile_of_locate {tree : Tree} {path : String} {place : Place} {bytes : ByteArray}
    (located : tree.locate path = .ok place)
    (isContent : tree.content? place = some (.file bytes)) : tree.isFile path = true := by
  simp only [Tree.isFile, Tree.found?, Tree.canonical?, located, Except.toOption,
    Option.bind_some, isContent]

/-- The path to a file is not empty. -/
theorem ne_empty_of_isFile {tree : Tree} {path : String} (isFile : tree.isFile path = true) :
    path ≠ "" := by
  rintro rfl
  cases isFile

/-- Following a path to names below a directory is following that of the directory and then the
names. -/
theorem Tree.follow_join (tree : Tree) (links : Nat) (start : Place) {base : String}
    (isBase : base ≠ "") {names : List String} (nonempty : names ≠ [])
    (areNames : ∀ name ∈ names, IsEntryName name) :
    tree.follow links start (pieces (join base ("/".intercalate names))) =
      tree.follow links start (pieces base ++ names) := by
  have isPath := pieces_intercalate nonempty fun name member => (areNames name member).noSlash
  rcases join_cases isBase (isAbsolute_intercalate areNames) with ⟨front, rfl, isJoin⟩ | isJoin
  · have isClosed := pieces_append front ""
    have isPiece : pieces "" = [""] := by decide +kernel
    rw [String.append_empty, isPiece] at isClosed
    cases names with
    | nil => exact absurd rfl nonempty
    | cons name rest =>
        rw [isJoin, pieces_append, isPath, isClosed, List.append_assoc, List.singleton_append,
          tree.follow_skip (.inl rfl)]
  · rw [isJoin, pieces_append, isPath]

/-- A path to a file of a walk can be written without a null character. -/
theorem Tree.IsNavigable.null_notMem_of_walk {tree : Tree} (navigable : tree.IsNavigable)
    {base : Place} {relative : List String} (member : relative ∈ tree.walk base) :
    '\x00' ∉ ("/".intercalate relative).toList := by
  obtain ⟨-, content, inEntries⟩ := Tree.exists_entry_of_walk member
  intro isNull
  rcases mem_toList_intercalate isNull with isSlash | ⟨name, inRelative, inName⟩
  · exact absurd isSlash (by decide)
  · exact navigable.noNull _ inEntries name (List.mem_append_right base inRelative) inName

/-- The names of a walk lead from its directory to a file. -/
theorem Tree.IsNavigable.leadsToFile_of_walk {tree : Tree} (navigable : tree.IsNavigable)
    {base : Place} (isDirectory : tree.content? base = some .directory) {relative : List String}
    (member : relative ∈ tree.walk base) : tree.LeadsToFile base relative := by
  obtain ⟨-, content, inEntries⟩ := Tree.exists_entry_of_walk member
  obtain ⟨isFile, isOpen, entered⟩ := Tree.contents_of_walk member
  refine ⟨navigable.names_of_walk member, fun name inRelative => ?_, fun count isBelow => ?_, isFile⟩
  · exact navigable.short _ inEntries name (List.mem_append_right base inRelative)
  · cases count with
    | zero =>
        rw [List.take_zero, List.append_nil]
        exact ⟨isDirectory, isOpen⟩
    | succ count =>
        have isAncestor : relative.take (count + 1) ∈ ancestors relative :=
          List.mem_map.2 ⟨count, List.mem_range.2 (by omega), rfl⟩
        exact entered _ (List.mem_map.2 ⟨_, isAncestor, rfl⟩)

/-- The path to a file of a walk leads to that file, however the directory of the walk is named. -/
theorem Tree.IsNavigable.locate_of_walk {tree : Tree} (navigable : tree.IsNavigable)
    {base : String} {place : Place} (located : tree.locate base = .ok place)
    (isDirectory : tree.content? place = some .directory) {relative : List String}
    (member : relative ∈ tree.walk place) :
    tree.locate (join base ("/".intercalate relative)) = .ok (place ++ relative) := by
  have leads := navigable.leadsToFile_of_walk isDirectory member
  have isRelative := isAbsolute_intercalate leads.named
  obtain ⟨nonempty, -⟩ := Tree.exists_entry_of_walk member
  obtain ⟨isBase, noNull, follows⟩ := tree.locate_eq_ok_iff.1 located
  obtain ⟨behind, isJoin, within⟩ := exists_join isBase isRelative
  have sameStart := isAbsolute_append isBase behind
  rw [← isJoin] at sameStart
  rw [tree.locate_eq_ok_iff]
  refine ⟨fun empty => ?_, fun isNull => ?_, ?_⟩
  · rw [isJoin] at empty
    exact isBase (String.append_eq_empty_iff.1 empty).1
  · rw [isJoin, String.toList_append] at isNull
    rcases List.mem_append.1 isNull with inBase | inBehind
    · exact noNull inBase
    · rcases within _ inBehind with isSlash | inPath
      · exact absurd isSlash (by decide)
      · exact navigable.null_notMem_of_walk member inPath
  · obtain ⟨left, goesOn⟩ := Tree.follow_append follows relative
    rw [sameStart, tree.follow_join _ _ isBase nonempty leads.named, goesOn, leads.follow]

end OperationCheck.Files
