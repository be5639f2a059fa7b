import OperationCheck.Proofs.Files.Spelling
import OperationCheck.Proofs.Files.Walk
import OperationCheck.Proofs.Glob.Names

/-!
Finding the files of a pointer. The main statements say that the bound on the depth of a walk loses
no file, unless a bracket accepts the slash, and that only two stars cross directories, unless a
bracket accepts the slash.
-/

namespace OperationCheck.Documents

open OperationCheck.Files OperationCheck.Glob

/-- The pattern of a pointer is matched against the paths below its directory. -/
def patternOf (pointer : String) : String := patternOrAll (splitGlob pointer).2

/-- A finder that excludes nothing discovers all it finds. -/
theorem Finder.discover_of_keepsAll {finder : Finder} (keepsAll : finder.excluded = [])
    (tree : Tree) (pointer : String) : finder.discover tree pointer = finder.found tree pointer := by
  have keeps (file : String) : (!finder.excludes tree file) = true := by
    rw [Finder.excludes, keepsAll]
    rfl
  rw [Finder.discover]
  cases finder.found tree pointer with
  | error => rfl
  | ok files => exact congrArg Except.ok (List.filter_eq_self.2 fun file _ => keeps file)

/-- What is discovered is what is found less what is excluded. -/
theorem exists_found_of_discover {finder : Finder} {tree : Tree} {pointer : String}
    {files : List String} (discovered : finder.discover tree pointer = .ok files) :
    ∃ all, finder.found tree pointer = .ok all ∧
      files = all.filter fun file => !finder.excludes tree file := by
  unfold Finder.discover at discovered
  cases isFound : finder.found tree pointer with
  | error => rw [isFound] at discovered; cases discovered
  | ok all =>
      rw [isFound] at discovered
      exact ⟨all, rfl, (Except.ok.inj discovered).symm⟩

/-- A directory is a place of the tree. -/
theorem exists_place_of_isDirectory {tree : Tree} {path : String}
    (isDirectory : tree.isDirectory path = true) : ∃ place, tree.canonical? path = some place := by
  unfold Tree.isDirectory Tree.found? at isDirectory
  cases located : tree.canonical? path with
  | none =>
      rw [located] at isDirectory
      cases isDirectory
  | some place => exact ⟨place, rfl⟩

/-- The place of a directory holds one. -/
theorem content_of_isDirectory {tree : Tree} {path : String} {place : Place}
    (isPlace : tree.canonical? path = some place) (isDirectory : tree.isDirectory path = true) :
    tree.content? place = some .directory := by
  unfold Tree.isDirectory Tree.found? at isDirectory
  rw [isPlace, Option.bind_some] at isDirectory
  split at isDirectory
  · next isContent => exact isContent
  · cases isDirectory

/-- An empty path leads nowhere. -/
theorem ne_empty_of_isDirectory {tree : Tree} {path : String}
    (isDirectory : tree.isDirectory path = true) : path ≠ "" := by
  rintro rfl
  cases isDirectory

/-- The path to a file below a directory is written behind the path of that directory. -/
def pathBelow (base : String) (relative : List String) : String :=
  join base ("/".intercalate relative)

/-- The files below a directory come in the order of their paths, unless the walk has failed. -/
def foundBelow (base : String) (matched : Except Fault (List (List String))) :
    Except DocumentError (List String) :=
  (matched.map fun files => (files.map (pathBelow base)).mergeSort pathLe).mapError
    (DocumentError.brokenWalk base)

/-- There are files only if the walk has not failed. -/
theorem foundBelow_eq_ok {base : String} {matched : Except Fault (List (List String))}
    {files : List String} (found : foundBelow base matched = .ok files) :
    ∃ relatives, matched = .ok relatives ∧
      files = (relatives.map (pathBelow base)).mergeSort pathLe := by
  cases matched with
  | error fault => cases found
  | ok relatives => exact ⟨relatives, rfl, (Except.ok.inj found).symm⟩

/-- The files of a pointer that names a directory and a glob. -/
theorem Finder.found_eq {finder : Finder} {tree : Tree} {pointer : String} {place : Place}
    {glob : Glob} (notFile : tree.isFile (join finder.root pointer) = false)
    (isDirectory : tree.isDirectory (finder.base pointer) = true)
    (isPlace : tree.canonical? (finder.base pointer) = some place)
    (isGlob : Glob.parse? (patternOf pointer) = some glob) :
    finder.found tree pointer =
      foundBelow (finder.base pointer) (matchBelow tree place (patternOf pointer) glob) := by
  unfold Finder.found
  rw [if_neg (by rw [notFile]; exact Bool.false_ne_true)]
  dsimp only
  rw [isPlace, isDirectory]
  dsimp only
  rw [show Glob.parse? (patternOrAll (splitGlob pointer).2) = some glob from isGlob]
  rfl

/-- Without exclusions, what is found is what is discovered. -/
theorem Finder.discover_of_matchBelow {finder : Finder} {tree : Tree} {pointer : String}
    {place : Place} {matched : Except Fault (List (List String))} (keepsAll : finder.excluded = [])
    (notFile : tree.isFile (join finder.root pointer) = false)
    (isDirectory : tree.isDirectory (finder.base pointer) = true)
    (isPlace : tree.canonical? (finder.base pointer) = some place)
    (areMatched : (Glob.parse? (patternOf pointer)).map
      (matchBelow tree place (patternOf pointer)) = some matched) :
    finder.discover tree pointer = foundBelow (finder.base pointer) matched := by
  obtain ⟨glob, isGlob, rfl⟩ := Option.map_eq_some_iff.1 areMatched
  rw [Finder.discover_of_keepsAll keepsAll, Finder.found_eq notFile isDirectory isPlace isGlob]

/-- A glob without two stars whose brackets refuse the slash accepts no path with more names than
its pattern has pieces. -/
theorem length_le_of_accepts {pattern : String} {glob : Glob} {relative : List String}
    (isGlob : Glob.parse? pattern = some glob) (single : hasTwoStars pattern.toList = false)
    (refuses : tokensEvery refusesSlash glob.tokens = true) (nonempty : relative ≠ [])
    (areNames : ∀ name ∈ relative, IsEntryName name)
    (accepted : glob.accepts ("/".intercalate relative) = true) :
    relative.length ≤ (pieces pattern).length := by
  have within := within_of_parse isGlob single
  have other : glob.tokens ≠ [.leading] := fun leads => by
    rw [leads] at within
    cases within
  rw [accepts_iff_spells other, pathText_intercalate] at accepted
  have bound := (accepted.count_slash_le within refuses).trans (slashes_le_of_parse isGlob)
  have names := count_aheadNames nonempty fun name member => (areNames name member).noSlash
  rw [length_pieces]
  omega

/-- The bound on the depth of a walk loses no file, although it keeps the walk from some barriers. -/
theorem matchBelow_eq {tree : Tree} (wellFormed : tree.IsWellFormed) (place : Place)
    {pattern : String} {glob : Glob} (isGlob : Glob.parse? pattern = some glob)
    (refuses : hasTwoStars pattern.toList = true ∨ tokensEvery refusesSlash glob.tokens = true) :
    matchBelow tree place pattern glob =
      if tree.isStopped (depthBound pattern) place then .error .permissionDenied
      else .ok ((tree.walk place).filter fun relative =>
        glob.accepts ("/".intercalate relative)) := by
  rw [matchBelow, Tree.boundedWalk]
  split
  · rfl
  rw [Except.map, List.filter_filter]
  refine congrArg Except.ok (List.filter_congr fun relative member => ?_)
  unfold depthBound
  split
  · exact Bool.and_true _
  · next single =>
      cases accepted : glob.accepts ("/".intercalate relative) with
      | false => rfl
      | true =>
          refine decide_eq_true (length_le_of_accepts isGlob (Bool.eq_false_of_not_eq_true single)
            (refuses.resolve_left single) (Tree.exists_entry_of_walk member).1
            (wellFormed.names_of_walk member) accepted)

/-- What is matched is a file of the walk that is not too deep. -/
theorem mem_of_matchBelow {tree : Tree} {place : Place} {pattern : String} {glob : Glob}
    {matched : List (List String)} (areMatched : matchBelow tree place pattern glob = .ok matched)
    {relative : List String} (member : relative ∈ matched) :
    relative ∈ tree.walk place ∧ (depthBound pattern).all (relative.length ≤ ·) = true ∧
      glob.accepts ("/".intercalate relative) = true := by
  unfold matchBelow Tree.boundedWalk at areMatched
  split at areMatched
  · cases areMatched
  · obtain rfl := Except.ok.inj areMatched
    obtain ⟨bounded, accepted⟩ := List.mem_filter.1 member
    obtain ⟨inWalk, isShallow⟩ := List.mem_filter.1 bounded
    exact ⟨inWalk, isShallow, accepted⟩

/-- Files below a directory are told apart by the components of their paths. -/
theorem pairwise_pathBelow {tree : Tree} (wellFormed : tree.IsWellFormed) {base : String}
    (isBase : base ≠ "") {place : Place} {files : List (List String)}
    (ofWalk : files.Sublist (tree.walk place)) :
    (files.map (pathBelow base)).Pairwise fun first second =>
      components first ≠ components second := by
  have distinct : files.Nodup := (wellFormed.walk_nodup place).sublist ofWalk
  refine List.pairwise_map.2 (distinct.imp_of_mem fun {first second} inFirst inSecond other same => ?_)
  have ofFirst := ofWalk.mem inFirst
  have ofSecond := ofWalk.mem inSecond
  exact other (join_injective isBase (Tree.exists_entry_of_walk ofFirst).1
    (Tree.exists_entry_of_walk ofSecond).1 (wellFormed.names_of_walk ofFirst)
    (wellFormed.names_of_walk ofSecond) same)

/-- A file stands in a directory of its own. -/
def nestedTree : Tree := (⟨[], [], []⟩ : Tree).add ["a", "c.graphql"] (.file ⟨#[]⟩)

theorem nestedTree_isWellFormed : nestedTree.IsWellFormed := by
  refine (Tree.isWellFormed_empty []).add (fun name member => ?_) _
  rcases List.mem_cons.1 member with rfl | member
  · exact ⟨by decide, by decide, by decide, by decide⟩
  · obtain rfl := List.mem_singleton.1 member
    exact ⟨by decide, by decide, by decide, by decide⟩

theorem nestedTree_home : nestedTree.canonical? "." = some [] := by
  rw [Tree.canonical_eq]
  decide +kernel

/-- These pointers are globs below the directory of the tree. -/
def nestedPointers : List String :=
  ["*/[!/]*.graphql", "a[!b]c.graphql", "**/c.*", "**/a[!b]c.graphql"]

/-- The pointers of the examples are globs below that directory. -/
theorem nestedPointers_are_globs : ∀ pointer ∈ nestedPointers,
    nestedTree.isFile (join "." pointer) = false ∧ Finder.base ⟨".", []⟩ pointer = "." := by
  simp only [Tree.isFile, Tree.found?, Tree.canonical_eq]
  decide +kernel

/-- The pointers of the examples are searched from a directory. -/
theorem nestedTree_isDirectory {pointer : String} (member : pointer ∈ nestedPointers) :
    nestedTree.isDirectory (Finder.base ⟨".", []⟩ pointer) = true := by
  rw [(nestedPointers_are_globs pointer member).2, Tree.isDirectory, Tree.found?, nestedTree_home]
  rfl

/-- What such a pointer discovers is what its pattern matches below the root. -/
theorem discover_nested {pointer : String} (member : pointer ∈ nestedPointers)
    {matched : Except Fault (List (List String))}
    (areMatched : (Glob.parse? (patternOf pointer)).map
      (matchBelow nestedTree [] (patternOf pointer)) = some matched) :
    Finder.discover ⟨".", []⟩ nestedTree pointer = foundBelow "." matched := by
  obtain ⟨notFile, isBase⟩ := nestedPointers_are_globs pointer member
  have isPlace := nestedTree_home
  rw [← isBase] at isPlace
  rw [@Finder.discover_of_matchBelow ⟨".", []⟩ _ _ _ _ rfl notFile (nestedTree_isDirectory member)
    isPlace areMatched, isBase]

/-- A part of a pattern goes to a parent or to a named entry. -/
def IsPart (component : Component) : Prop :=
  component.text ≠ "" ∧ '/' ∉ component.text.toList ∧ component ≠ .root

/-- A move is a part of a path. -/
theorem isPart_of_move {move : Component} (isMove : IsMove move) : IsPart move :=
  ⟨isMove.text_ne_empty, isMove.noSlash, isMove.ne_root⟩

/-- The root is no glob, so it never stands behind the literal beginning of a pointer. -/
theorem dropWhile_components (pointer : String) :
    ((components pointer).filter (· ≠ .current)).dropWhile
        (fun component => !isGlobComponent component) =
      (moves pointer).dropWhile fun component => !isGlobComponent component := by
  rw [filter_components]
  split <;> rfl

/-- Each component of a pattern is a part of a path. -/
theorem isPart_of_pattern {pointer : String} {component : Component}
    (member : component ∈ ((components pointer).filter (· ≠ .current)).dropWhile fun component =>
      !isGlobComponent component) : IsPart component := by
  rw [dropWhile_components] at member
  exact isPart_of_move (isMove_of_mem ((List.dropWhile_sublist _).mem member))

/-- A path of such parts is their texts with slashes between. -/
theorem pathOf_eq {parts : List Component} (areParts : ∀ part ∈ parts, IsPart part) :
    pathOf parts = "/".intercalate (parts.map Component.text) := by
  unfold pathOf
  split
  · exact absurd rfl (areParts _ List.mem_cons_self).2.2
  · rfl

/-- The pieces of a pattern are not empty. -/
theorem piece_ne_empty {pointer piece : String} (member : piece ∈ pieces (patternOf pointer)) :
    piece ≠ "" := by
  have ofStars (inStars : piece ∈ pieces "**") : piece ≠ "" := by
    have isPieces : pieces "**" = ["**"] := by decide +kernel
    rw [isPieces] at inStars
    rw [List.mem_singleton.1 inStars]
    decide
  unfold patternOf patternOrAll at member
  split at member
  · exact ofStars member
  · next nonempty =>
      unfold splitGlob at member nonempty
      dsimp only at member nonempty
      have areParts := @isPart_of_pattern pointer
      generalize (((components pointer).filter (· ≠ .current)).dropWhile fun component =>
        !isGlobComponent component) = parts at member nonempty areParts
      rw [pathOf_eq fun _ => areParts] at member nonempty
      have some : parts.map Component.text ≠ [] := fun none => nonempty (by rw [none]; rfl)
      rw [pieces_intercalate some] at member
      · obtain ⟨part, inParts, rfl⟩ := List.mem_map.1 member
        exact (areParts inParts).1
      · intro name inNames
        obtain ⟨part, inParts, rfl⟩ := List.mem_map.1 inNames
        exact (areParts inParts).2.1

/-- A name stands in such a path with all that follows it. -/
theorem suffix_of_piece {names : List String} {name : String} (member : name ∈ names) :
    ∃ behind, name.toList ++ behind <:+ ("/".intercalate names).toList := by
  induction names with
  | nil => cases member
  | cons first names ih =>
      cases names with
      | nil =>
          rw [List.mem_singleton.1 member, String.intercalate_singleton]
          exact ⟨[], (List.append_nil _).symm ▸ List.suffix_refl _⟩
      | cons second names =>
          rw [toList_intercalate_cons]
          rcases List.mem_cons.1 member with rfl | later
          · exact ⟨_, List.suffix_refl _⟩
          · obtain ⟨behind, isSuffix⟩ := ih later
            exact ⟨behind, isSuffix.trans ((List.suffix_cons _ _).trans (List.suffix_append _ _))⟩

/-- A piece of two stars gives two stars to its pattern. -/
theorem stars_notMem_pieces {pattern : String} (single : hasTwoStars pattern.toList = false) :
    "**" ∉ pieces pattern := by
  intro member
  obtain ⟨behind, isSuffix⟩ := suffix_of_piece member
  rw [intercalate_pieces] at isSuffix
  cases hasTwoStars_suffix isSuffix single

/-- A pointer names a file, or it finds files below a directory, or there is nothing. -/
theorem Finder.found_cases {finder : Finder} {tree : Tree} {pointer : String}
    {files : List String} (found : finder.found tree pointer = .ok files) :
    (tree.isFile (join finder.root pointer) = true ∧ files = [join finder.root pointer]) ∨
      files = [] ∨
      ∃ place glob, tree.canonical? (finder.base pointer) = some place ∧
        tree.isDirectory (finder.base pointer) = true ∧
        Glob.parse? (patternOf pointer) = some glob ∧
        ∃ matched, matchBelow tree place (patternOf pointer) glob = .ok matched ∧
          files = (matched.map (pathBelow (finder.base pointer))).mergeSort pathLe := by
  unfold Finder.found at found
  dsimp only at found
  split at found
  · next isFile => exact .inl ⟨isFile, (Except.ok.inj found).symm⟩
  · split at found
    · next place isPlace isDirectory =>
        split at found
        · cases found
        · next glob isGlob =>
            obtain ⟨matched, areMatched, isFound⟩ := foundBelow_eq_ok found
            exact .inr (.inr ⟨place, glob, isPlace, isDirectory, isGlob, matched, areMatched,
              isFound⟩)
    · exact .inr (.inl (Except.ok.inj found).symm)

/-- A pointer that is no file gives files only below a directory and by a glob. -/
theorem Finder.exists_glob_of_found {finder : Finder} {tree : Tree} {pointer file : String}
    {files : List String} (notFile : tree.isFile (join finder.root pointer) = false)
    (found : finder.found tree pointer = .ok files) (member : file ∈ files) :
    ∃ place glob, Glob.parse? (patternOf pointer) = some glob ∧
      ∃ matched, matchBelow tree place (patternOf pointer) glob = .ok matched ∧
        ∃ relative ∈ matched, file = pathBelow (finder.base pointer) relative := by
  rcases Finder.found_cases found with
    ⟨isFile, -⟩ | rfl | ⟨place, glob, -, -, isGlob, relatives, areMatched, rfl⟩
  · exact absurd isFile (Bool.eq_false_iff.1 notFile)
  · cases member
  · rw [List.mem_mergeSort, List.mem_map] at member
    obtain ⟨relative, matched, isFile⟩ := member
    exact ⟨place, glob, isGlob, relatives, areMatched, relative, matched, isFile.symm⟩

/-- Only two stars cross directories. A file is found only if the names of its path match the pieces
of the pattern one to one, where two stars stand for any number of names. Each piece is two stars or
a glob of its own, whose tokens stay within a name. Its brackets refuse the slash, unless the
pattern has no two stars and the depth of the walk is bounded. -/
theorem discover_matchesNames {finder : Finder} {tree : Tree} {pointer : String}
    {files : List String} (wellFormed : tree.IsWellFormed)
    (notFile : tree.isFile (join finder.root pointer) = false)
    (found : finder.discover tree pointer = .ok files)
    (each : ∀ piece ∈ pieces (patternOf pointer), piece = "**" ∨
      ∃ own, Glob.parse? piece = some own ∧ tokensEvery isWithinName own.tokens = true)
    (refuses : hasTwoStars (patternOf pointer).toList = false ∨
      ∀ piece ∈ pieces (patternOf pointer), ∀ own, Glob.parse? piece = some own →
        tokensEvery refusesSlash own.tokens = true) :
    ∀ file ∈ files, ∃ relative, file = pathBelow (finder.base pointer) relative ∧
      MatchesNames (pieces (patternOf pointer)) relative := by
  intro file member
  obtain ⟨all, isFound, rfl⟩ := exists_found_of_discover found
  obtain ⟨place, glob, isGlob, matched, areMatched, relative, inMatched, rfl⟩ :=
    Finder.exists_glob_of_found notFile isFound (List.mem_filter.1 member).1
  refine ⟨relative, rfl, ?_⟩
  obtain ⟨inWalk, short, accepted⟩ := mem_of_matchBelow areMatched inMatched
  -- Without two stars the walk is no deeper than the pattern, so no name is left over.
  have whole : WholeNames .start (pieces (patternOf pointer)) relative := by
    rcases refuses with single | refuses
    · refine .inr ⟨rfl, stars_notMem_pieces single, ?_⟩
      unfold depthBound at short
      rw [single] at short
      exact of_decide_eq_true short
    · exact .inl refuses
  exact matchesNames_of_accepts isGlob
    (fun piece inPieces => ⟨piece_ne_empty inPieces, each piece inPieces⟩)
    (Tree.exists_entry_of_walk inWalk).1
    (fun name inRelative => (wellFormed.names_of_walk inWalk name inRelative).noSlash) whole accepted

/-- Behind two stars, a glob of a single name finds a file in a directory. -/
theorem discover_matchesNames_nested :
    Finder.discover ⟨".", []⟩ nestedTree "**/c.*" = .ok ["./a/c.graphql"] ∧
      ∃ relative, "./a/c.graphql" = pathBelow (Finder.base ⟨".", []⟩ "**/c.*") relative ∧
        MatchesNames (pieces (patternOf "**/c.*")) relative := by
  have member : "**/c.*" ∈ nestedPointers := by decide
  have matched : (Glob.parse? (patternOf "**/c.*")).map
      (matchBelow nestedTree [] (patternOf "**/c.*")) =
        some (.ok [["a", "c.graphql"]]) := by
    decide +kernel
  have isPath : pathBelow "." ["a", "c.graphql"] = "./a/c.graphql" := by decide +kernel
  have found : Finder.discover ⟨".", []⟩ nestedTree "**/c.*" = .ok ["./a/c.graphql"] := by
    rw [discover_nested member matched, foundBelow, Except.map, List.map_singleton,
      List.mergeSort_singleton, isPath]
    rfl
  have isPieces : pieces (patternOf "**/c.*") = ["**", "c.*"] := by decide +kernel
  have stays : (Glob.parse? "c.*").any (fun own => tokensEvery isWithinName own.tokens) = true := by
    decide +kernel
  have refuses : ∀ piece ∈ ["**", "c.*"], (Glob.parse? piece).all (fun own =>
      tokensEvery refusesSlash own.tokens) = true := by
    decide +kernel
  refine ⟨found, discover_matchesNames nestedTree_isWellFormed
    (nestedPointers_are_globs _ member).1 found ?_ (.inr ?_) _ List.mem_cons_self⟩
  · rw [isPieces]
    exact List.forall_mem_cons.2 ⟨.inl rfl, List.forall_mem_singleton.2
      (.inr ((Option.any_eq_true _ _).1 stays))⟩
  · rw [isPieces]
    exact fun piece member => (Option.all_eq_true _ _).1 (refuses piece member)

/-- Behind two stars, a negated bracket stands for the slash between two names. -/
theorem bracket_crosses_directories :
    Finder.discover ⟨".", []⟩ nestedTree "**/a[!b]c.graphql" = .ok ["./a/c.graphql"] ∧
      ["a", "c.graphql"] ∈ nestedTree.walk [] ∧
      pathBelow (Finder.base ⟨".", []⟩ "**/a[!b]c.graphql") ["a", "c.graphql"] = "./a/c.graphql" ∧
      ¬MatchesNames (pieces (patternOf "**/a[!b]c.graphql")) ["a", "c.graphql"] := by
  have member : "**/a[!b]c.graphql" ∈ nestedPointers := by decide
  obtain ⟨-, isBase⟩ := nestedPointers_are_globs _ member
  have matched : (Glob.parse? (patternOf "**/a[!b]c.graphql")).map
      (matchBelow nestedTree [] (patternOf "**/a[!b]c.graphql")) =
        some (.ok [["a", "c.graphql"]]) := by
    decide +kernel
  have isPath : pathBelow "." ["a", "c.graphql"] = "./a/c.graphql" := by decide +kernel
  have inWalk : ["a", "c.graphql"] ∈ nestedTree.walk [] := by decide +kernel
  have isPieces : pieces (patternOf "**/a[!b]c.graphql") = ["**", "a[!b]c.graphql"] := by
    decide +kernel
  have refused : (Glob.parse? "a[!b]c.graphql").all (fun own => !own.accepts "c.graphql") = true := by
    decide +kernel
  refine ⟨?_, inWalk, ?_, ?_⟩
  · rw [discover_nested member matched, foundBelow, Except.map, List.map_singleton,
      List.mergeSort_singleton, isPath]
    rfl
  · rw [isBase, isPath]
  · rw [isPieces]
    intro matched
    obtain ⟨skipped, rest, isRest, matched⟩ := matched.of_stars
    obtain ⟨name, others, own, rfl, isOwn, accepted, isDone⟩ := matched.of_name (by decide)
    cases isDone
    have isLast : name = "c.graphql" := by simpa using (congrArg List.getLast? isRest).symm
    have notAccepted := (Option.all_eq_true _ _).1 refused own isOwn
    rw [← isLast, accepted] at notAccepted
    cases notAccepted

end OperationCheck.Documents
