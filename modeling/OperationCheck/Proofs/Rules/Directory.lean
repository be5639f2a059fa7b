import OperationCheck.Proofs.Files.Walk
import OperationCheck.Proofs.Run.Selection

/-!
Loading a directory in place. An operating system lists the entries of a directory in any order, and
a listing may break off. The tables are then offered one after another to a registry that is changed
on the way. The main statement says that a loading which fails has changed nothing, and that any
other one does what a loading from the tree does, whatever the order of the listing.
-/

namespace OperationCheck.Rules

open OperationCheck.Files

/-- An operating system lists the entries of a directory one after another, and a fault may come
instead of each of them. It refuses to list what is not a directory. -/
inductive Listing where
  | missing
  | refused (fault : Fault)
  | entries (answers : List (Except Fault String))

/-- A loading ends early when a listing is refused or breaks off. -/
inductive Interruption where
  | refused (error : RegistryError)
  | brokenOff (fault : Fault)

/-- A loading changes a registry, and it gives warnings. -/
structure Progress where
  registry : Registry
  warnings : List Warning

def Progress.begin (registry : Registry) : Progress := ⟨registry, []⟩

def Progress.offer (progress : Progress) (offered : Held) : Progress :=
  { progress with registry := progress.registry.offer offered }

def Progress.warn (progress : Progress) (warning : Warning) : Progress :=
  { progress with warnings := progress.warnings ++ [warning] }

/-- A step of a loading may change its progress or interrupt it. -/
abbrev LoadM := EStateM Interruption Progress

/-- This function puts the paths of tables aside, in the order of the listing. -/
def listPaths (base : String) : List String → List (Except Fault String) → LoadM (List String)
  | paths, [] => return paths
  | _, .error fault :: _ => throw (.brokenOff fault)
  | paths, .ok name :: answers =>
      let path := join base name
      if extension? path == some tableExtension then listPaths base (paths ++ [path]) answers
      else listPaths base paths answers

/-- This function offers the table of each file and counts the files that hold one. -/
def offerTables (tree : Tree) (priority : Priority) : Nat → List String → LoadM Nat
  | loaded, [] => return loaded
  | loaded, path :: paths =>
      match readTable tree path with
      | .ok table => do
          modify (·.offer ⟨table, priority, some path⟩)
          offerTables tree priority (loaded + 1) paths
      | .error error => do
          modify (·.warn (.skippedTable path error.message))
          offerTables tree priority loaded paths

/-- All entries are listed before the first table is offered. -/
def Directory.loadListed (directory : Directory) (tree : Tree) : Listing → LoadM Nat
  | .missing => return 0
  | .refused fault => throw (.refused (.unreadableDirectory directory.path fault))
  | .entries answers => do
      let paths ← listPaths directory.path [] answers
      offerTables tree directory.priority 0 (paths.mergeSort pathLe)

/-- The names in a directory, if they can be listed. -/
def Directory.names (directory : Directory) (tree : Tree) : List String :=
  match tree.locate directory.path with
  | .error _ => []
  | .ok place =>
      match tree.list place with
      | .ok names => names
      | .error _ => []

/-- A listing is one of a directory when it tells of all its entries, in any order. -/
inductive Directory.Lists (directory : Directory) (tree : Tree) : Listing → Prop
  | missing {fault : Fault} (nothing : tree.locate directory.path = .error fault) :
      Lists directory tree .missing
  | entries {place : Place} {names order : List String}
      (isPlace : tree.locate directory.path = .ok place) (listed : tree.list place = .ok names)
      (same : order.Perm names) : Lists directory tree (.entries (order.map .ok))

/-- A listing whose entries are all told changes nothing. -/
theorem listPaths_ok (base : String) (paths names : List String) (progress : Progress) :
    (listPaths base paths (names.map .ok)).run progress =
      .ok (paths ++ (names.map (join base)).filter fun path =>
        extension? path == some tableExtension) progress := by
  induction names generalizing paths with
  | nil =>
      rw [List.map_nil, List.map_nil, List.filter_nil, List.append_nil]
      rfl
  | cons name names ih =>
      rw [List.map_cons, List.map_cons, listPaths]
      by_cases isTable : (extension? (join base name) == some tableExtension) = true
      · rw [if_pos isTable, ih, List.filter_cons, if_pos isTable, List.append_assoc]
        rfl
      · rw [if_neg isTable, ih, List.filter_cons, if_neg isTable]

/-- A listing that breaks off changes nothing either. -/
theorem listPaths_error (base : String) {answers : List (Except Fault String)}
    (broken : ∃ fault, .error fault ∈ answers) (paths : List String) (progress : Progress) :
    ∃ fault, .error fault ∈ answers ∧
      (listPaths base paths answers).run progress = .error (.brokenOff fault) progress := by
  induction answers generalizing paths with
  | nil => exact absurd broken.choose_spec List.not_mem_nil
  | cons answer answers ih =>
      cases answer with
      | error fault => exact ⟨fault, List.mem_cons_self, rfl⟩
      | ok name =>
          have later : ∃ fault, Except.error fault ∈ answers := by simpa using broken
          obtain ⟨fault, member, ended⟩ := ih later
            (if extension? (join base name) == some tableExtension then paths ++ [join base name]
              else paths)
          refine ⟨fault, List.mem_cons_of_mem _ member, ?_⟩
          rw [← ended, listPaths]
          split <;> rfl

/-- Each table file is either offered or warned of. -/
theorem length_offers_add_warnings (directory : Directory) (tree : Tree) (paths : List String) :
    (paths.filterMap (directory.offer? tree)).length +
      (paths.filterMap (warning? tree)).length = paths.length := by
  induction paths with
  | nil => rfl
  | cons path paths ih =>
      rcases offer_or_warning directory tree path with
        ⟨table, -, noWarning, offered⟩ | ⟨error, -, noOffer, warned⟩
      · rw [List.filterMap_cons_some offered, List.filterMap_cons_none noWarning,
          List.length_cons, List.length_cons]
        omega
      · rw [List.filterMap_cons_none noOffer, List.filterMap_cons_some warned,
          List.length_cons, List.length_cons]
        omega

/-- What a loading has done when it has come through some files. -/
def Progress.through (progress : Progress) (directory : Directory) (tree : Tree)
    (paths : List String) : Progress :=
  ⟨progress.registry.offerAll (paths.filterMap (directory.offer? tree)),
    progress.warnings ++ paths.filterMap (warning? tree)⟩

/-- No file interrupts a loading. -/
theorem offerTables_run (directory : Directory) (tree : Tree) (loaded : Nat)
    (paths : List String) (progress : Progress) :
    (offerTables tree directory.priority loaded paths).run progress =
      .ok (loaded + (paths.filterMap (directory.offer? tree)).length)
        (progress.through directory tree paths) := by
  -- Each file changes what the next one starts from, so the progress and the number go along.
  induction paths generalizing loaded progress with
  | nil =>
      rw [Progress.through, List.filterMap_nil, List.filterMap_nil, List.append_nil]
      rfl
  | cons path paths ih =>
      rcases offer_or_warning directory tree path with
        ⟨table, valid, noWarning, offered⟩ | ⟨error, invalid, noOffer, warned⟩
      · have step : (offerTables tree directory.priority loaded (path :: paths)).run progress =
            (offerTables tree directory.priority (loaded + 1) paths).run
              (progress.offer ⟨table, directory.priority, some path⟩) := by
          rw [offerTables, valid]
          rfl
        rw [step, ih, Progress.through, Progress.through, List.filterMap_cons_some offered,
          List.filterMap_cons_none noWarning, List.length_cons, Nat.add_right_comm]
        rfl
      · have step : (offerTables tree directory.priority loaded (path :: paths)).run progress =
            (offerTables tree directory.priority loaded paths).run
              (progress.warn (.skippedTable path error.message)) := by
          rw [offerTables, invalid]
          rfl
        rw [step, ih, Progress.through, Progress.through, List.filterMap_cons_none noOffer,
          List.filterMap_cons_some warned, Progress.warn, List.append_assoc]
        rfl

/-- A listing without a fault leads through its paths in their order. -/
theorem loadListed_names (directory : Directory) (tree : Tree) (names : List String)
    (progress : Progress) :
    (directory.loadListed tree (.entries (names.map .ok))).run progress =
      .ok ((tablePaths directory.path names).filterMap (directory.offer? tree)).length
        (progress.through directory tree (tablePaths directory.path names)) := by
  have offered := offerTables_run directory tree 0 (tablePaths directory.path names) progress
  rw [Nat.zero_add] at offered
  rw [Directory.loadListed, EStateM.run_bind, listPaths_ok]
  exact offered

theorem tablePaths_nil (base : String) : tablePaths base [] = [] := by
  rw [tablePaths, List.map_nil, List.filter_nil, List.mergeSort_nil]

/-- An entry has its name behind the place of its directory. -/
theorem exists_entry_of_name {tree : Tree} {place : Place} {name : String}
    (member : name ∈ tree.names place) : ∃ content, (place ++ [name], content) ∈ tree.entries := by
  obtain ⟨⟨entry, content⟩, inEntries, isName⟩ := List.mem_filterMap.1 member
  dsimp only at isName
  split at isName
  · next inPlace =>
      obtain ⟨front, rfl⟩ := List.getLast?_eq_some_iff.1 isName
      rw [List.dropLast_concat] at inPlace
      exact ⟨content, inPlace ▸ inEntries⟩
  · cases isName

/-- What is listed are the names at a place. -/
theorem names_of_list {tree : Tree} {place : Place} {names : List String}
    (listed : tree.list place = .ok names) : names = tree.names place := by
  unfold Tree.list at listed
  split at listed
  · split at listed
    · exact (Except.ok.inj listed).symm
    · cases listed
  · cases listed

/-- No two entries of a directory have the same name. -/
theorem nodup_names {tree : Tree} (wellFormed : tree.IsWellFormed) (place : Place) :
    (tree.names place).Nodup := by
  have distinct := List.pairwise_map.1 wellFormed.distinct
  refine distinct.filterMap _ fun first second other name isFirst name' isSecond => ?_
  rintro rfl
  split at isFirst
  · next inPlace =>
      split at isSecond
      · next inPlace' =>
          obtain ⟨front, isPlace⟩ := List.getLast?_eq_some_iff.1 isFirst
          obtain ⟨front', isPlace'⟩ := List.getLast?_eq_some_iff.1 isSecond
          rw [isPlace, List.dropLast_concat] at inPlace
          rw [isPlace', List.dropLast_concat] at inPlace'
          rw [isPlace, isPlace', inPlace, inPlace'] at other
          exact other rfl
      · cases isSecond
  · cases isFirst

section

variable {tree : Tree} {directory : Directory}

/-- The files of a directory are those of its entries that have the extension of tables. -/
theorem files_eq (directory : Directory) (tree : Tree) :
    directory.files tree = tablePaths directory.path (directory.names tree) := by
  have none := tablePaths_nil directory.path
  unfold Directory.files Directory.names
  cases tree.locate directory.path with
  | error fault => exact none.symm
  | ok place =>
      dsimp only
      cases tree.list place with
      | ok names => rfl
      | error fault => exact none.symm

/-- A name of the directory is the name of an entry at some place of the tree. -/
theorem place_of_name {name : String} (member : name ∈ directory.names tree) :
    directory.path ≠ "" ∧ ∃ place, name ∈ tree.names place := by
  unfold Directory.names at member
  cases located : tree.locate directory.path with
  | error fault => simp [located] at member
  | ok place =>
      rw [located] at member
      dsimp only at member
      refine ⟨?_, place, ?_⟩
      · rintro isEmpty
        rw [isEmpty, tree.locate_eq, if_pos rfl] at located
        cases located
      · split at member
        · next names listed =>
            rw [names_of_list listed] at member
            exact member
        · cases member

/-- No name stands twice in a directory. -/
theorem nodup_directoryNames (wellFormed : tree.IsWellFormed) : (directory.names tree).Nodup := by
  unfold Directory.names
  split
  · exact List.nodup_nil
  · split
    · next names listed =>
        rw [names_of_list listed]
        exact nodup_names wellFormed _
    · exact List.nodup_nil

/-- The names of a well-formed tree are names of entries: neither empty nor a dot, and without a
slash. -/
theorem isEntryName_of_name (wellFormed : tree.IsWellFormed) {name : String}
    (member : name ∈ directory.names tree) : IsEntryName name := by
  obtain ⟨-, place, inPlace⟩ := place_of_name member
  obtain ⟨content, inEntries⟩ := exists_entry_of_name inPlace
  exact wellFormed.named _ inEntries name (List.mem_append_right place List.mem_cons_self)

/-- A name under a path is one component more. -/
theorem components_join_name {base name : String} (isBase : base ≠ "") (isName : IsEntryName name) :
    components (join base name) = components base ++ [.normal name] := by
  have isJoin := components_join isBase (List.cons_ne_nil name []) (by simpa using isName)
  rwa [String.intercalate_singleton] at isJoin

/-- An entry has the extension of its name. -/
theorem extension_join {base name : String} (isBase : base ≠ "") (isName : IsEntryName name) :
    extension? (join base name) = extensionOf name := by
  rw [extension?, fileName?, components_join_name isBase isName, List.getLast?_concat]
  rfl

/-- The paths of entries have different components. -/
theorem pairwise_paths (directory : Directory) (wellFormed : tree.IsWellFormed) :
    ((directory.names tree).map (join directory.path)).Pairwise fun first second =>
      components first ≠ components second := by
  refine List.pairwise_map.2 ((nodup_directoryNames wellFormed).imp_of_mem
    fun {first second} isFirst isSecond other same => other ?_)
  have isBase := (place_of_name isFirst).1
  rw [components_join_name isBase (isEntryName_of_name wellFormed isFirst),
    components_join_name isBase (isEntryName_of_name wellFormed isSecond)] at same
  exact Component.normal.inj (List.singleton_inj.1 (List.append_cancel_left same))

/-- The table files of a directory are read in strictly ascending order, so none is read twice. -/
theorem ascending_files (wellFormed : tree.IsWellFormed) : Ascending (directory.files tree) := by
  rw [files_eq]
  exact mergeSort_ascending ((pairwise_paths directory wellFormed).sublist List.filter_sublist)

/-- The order of the names does not matter once their paths are sorted. -/
theorem tablePaths_eq_files (wellFormed : tree.IsWellFormed) {order : List String}
    (same : order.Perm (directory.names tree)) :
    tablePaths directory.path order = directory.files tree := by
  have reordered := (same.map (join directory.path)).filter fun path =>
    extension? path == some tableExtension
  have distinct := (pairwise_paths directory wellFormed).sublist
    (List.filter_sublist (p := fun path => extension? path == some tableExtension))
  have sorted := (List.mergeSort_perm _ pathLe).trans
    (reordered.trans (List.mergeSort_perm _ pathLe).symm)
  rw [files_eq]
  -- No two paths have the same components, so sorting leaves no choice between them.
  exact eq_of_ascending sorted
    (mergeSort_ascending (distinct.perm reordered.symm fun other => other.symm))
    (mergeSort_ascending distinct)

/-- There are as many files as names with the extension of tables. -/
theorem length_files (wellFormed : tree.IsWellFormed) :
    (directory.files tree).length =
      (directory.names tree).countP fun name => extensionOf name == some tableExtension := by
  rw [files_eq, tablePaths, List.length_mergeSort, ← List.countP_eq_length_filter, List.countP_map]
  refine List.countP_congr fun name member => ?_
  rw [Function.comp_apply, extension_join (place_of_name member).1
    (isEntryName_of_name wellFormed member)]

/-- A missing directory has no entries to list. -/
theorem names_of_missing {fault : Fault} (nothing : tree.locate directory.path = .error fault) :
    directory.names tree = [] := by
  unfold Directory.names
  rw [nothing]

/-- The names of a directory are those that are listed. -/
theorem names_of_listed {place : Place} {names : List String}
    (isPlace : tree.locate directory.path = .ok place) (listed : tree.list place = .ok names) :
    directory.names tree = names := by
  unfold Directory.names
  rw [isPlace]
  dsimp only
  rw [listed]

/-- A loading goes through the files of a directory in their order, whatever order they are listed
in. -/
theorem loadListed_ok (wellFormed : tree.IsWellFormed) {listing : Listing}
    (lists : directory.Lists tree listing) (progress : Progress) :
    (directory.loadListed tree listing).run progress =
      .ok ((directory.files tree).filterMap (directory.offer? tree)).length
        (progress.through directory tree (directory.files tree)) := by
  cases lists with
  | missing nothing =>
      rw [files_eq, names_of_missing nothing, tablePaths_nil, Progress.through,
        List.filterMap_nil, List.filterMap_nil, List.append_nil]
      rfl
  | entries isPlace listed same =>
      rw [← names_of_listed isPlace listed] at same
      rw [loadListed_names, tablePaths_eq_files wellFormed same]

end

/-- A listing breaks when it is refused or tells of a fault. -/
def Listing.Breaks : Listing → Prop
  | .missing => False
  | .refused _ => True
  | .entries answers => ∃ fault, .error fault ∈ answers

/-- A loading fails when its listing breaks, and then it has changed nothing. -/
theorem loadListed_error (directory : Directory) (tree : Tree) {listing : Listing}
    (breaks : listing.Breaks) (progress : Progress) :
    ∃ interruption, (directory.loadListed tree listing).run progress =
      .error interruption progress := by
  cases listing with
  | missing => cases breaks
  | refused fault => exact ⟨_, rfl⟩
  | entries answers =>
      obtain ⟨fault, -, ended⟩ := listPaths_error directory.path breaks [] progress
      refine ⟨.brokenOff fault, ?_⟩
      rw [Directory.loadListed, EStateM.run_bind, ended]

/-- A list of answers without a fault is one of names. -/
theorem exists_names {answers : List (Except Fault String)}
    (noFault : ¬∃ fault, .error fault ∈ answers) :
    ∃ names : List String, answers = names.map .ok := by
  induction answers with
  | nil => exact ⟨[], rfl⟩
  | cons answer answers ih =>
      cases answer with
      | error fault => exact absurd ⟨fault, List.mem_cons_self⟩ noFault
      | ok name =>
          obtain ⟨names, rfl⟩ := ih fun ⟨fault, member⟩ =>
            noFault ⟨fault, List.mem_cons_of_mem _ member⟩
          exact ⟨name :: names, rfl⟩

/-- A listing that does not break is loaded, whatever its tables hold. -/
theorem loadListed_unbroken (directory : Directory) (tree : Tree) {listing : Listing}
    (unbroken : ¬listing.Breaks) (progress : Progress) :
    ∃ count after, (directory.loadListed tree listing).run progress = .ok count after := by
  cases listing with
  | missing => exact ⟨_, _, rfl⟩
  | refused fault => exact absurd trivial unbroken
  | entries answers =>
      obtain ⟨names, rfl⟩ := exists_names unbroken
      exact ⟨_, _, loadListed_names directory tree names progress⟩

/-- What loading a directory comes to: the tables offered and counted in the order of the files, a
warning for each of the others, and the failure to list if there is one. -/
theorem loadDirectory_eq (registry : Registry) (tree : Tree) (directory : Directory) :
    registry.loadDirectory tree directory =
      ⟨resultOf (directory.error? tree)
          (registry.offerAll ((directory.files tree).filterMap (directory.offer? tree)),
            ((directory.files tree).filterMap (directory.offer? tree)).length),
        (directory.files tree).filterMap (warning? tree)⟩ := by
  unfold Registry.loadDirectory
  rw [directoryOffers_eq]
  cases failed : directory.error? tree with
  | some error => rfl
  | none => exact congrArg _ (List.append_nil _)

/-- A loading from the tree fails for one reason only. -/
theorem list_of_error {directory : Directory} {tree : Tree} {error : RegistryError}
    (failed : directory.error? tree = some error) :
    ∃ place fault, tree.locate directory.path = .ok place ∧ tree.list place = .error fault ∧
      error = .unreadableDirectory directory.path fault := by
  unfold Directory.error? at failed
  split at failed
  · cases failed
  · next place isPlace =>
      split at failed
      · cases failed
      · next fault refused => exact ⟨place, fault, isPlace, refused, (Option.some.inj failed).symm⟩

/-- A directory that can be listed is loaded without an error. -/
theorem Directory.Lists.error_eq {directory : Directory} {tree : Tree} {listing : Listing}
    (lists : directory.Lists tree listing) : directory.error? tree = none := by
  cases lists with
  | missing nothing =>
      refine Directory.IsReadable.error_eq (.inl ?_)
      rw [Tree.canonical?, nothing]
      rfl
  | entries isPlace listed _ =>
      refine Directory.IsReadable.error_eq (.inr ⟨_, _, ?_, listed⟩)
      rw [Tree.canonical?, isPlace]
      rfl

/-- The valid files of a directory, with their tables, are in the strict order of their paths. All
other entries with the extension of tables are only warned about. -/
structure Directory.Contains (directory : Directory) (tree : Tree)
    (valid : List (String × Table)) (warnings : List Warning) : Prop where
  ascending : Ascending (valid.map Prod.fst)
  members : ∀ path table, (path, table) ∈ valid ↔
    directory.HasFile tree path ∧ readTable tree path = .ok table
  warned : ∀ warning ∈ warnings, ∃ path error, directory.HasFile tree path ∧
    readTable tree path = .error error ∧ warning = .skippedTable path error.message
  counted : valid.length + warnings.length =
    (directory.names tree).countP fun name => extensionOf name == some tableExtension

/-- The offers that the valid files of a directory make. -/
def Directory.offersOf (directory : Directory) (valid : List (String × Table)) : List Held :=
  valid.map fun (path, table) => ⟨table, directory.priority, some path⟩

def Directory.valid (directory : Directory) (tree : Tree) : List (String × Table) :=
  (directory.files tree).filterMap fun path =>
    (readTable tree path).toOption.map fun table => (path, table)

/-- The offers of the valid tables are those loading makes. -/
theorem offersOf_valid (directory : Directory) (tree : Tree) :
    directory.offersOf (directory.valid tree) =
      (directory.files tree).filterMap (directory.offer? tree) := by
  rw [Directory.offersOf, Directory.valid, List.map_filterMap]
  refine List.filterMap_congr fun path _ => ?_
  rw [Option.map_map]
  rfl

/-- Each valid file makes one offer. -/
theorem length_valid (directory : Directory) (tree : Tree) :
    ((directory.files tree).filterMap (directory.offer? tree)).length =
      (directory.valid tree).length := by
  rw [← offersOf_valid, Directory.offersOf, List.length_map]

/-- A valid table is one that stands in a table file of the directory and can be read. -/
theorem mem_valid {directory : Directory} {tree : Tree} {path : String} {table : Table} :
    (path, table) ∈ directory.valid tree ↔
      directory.HasFile tree path ∧ readTable tree path = .ok table := by
  rw [Directory.valid, List.mem_filterMap, ← mem_files]
  constructor
  · rintro ⟨file, isFile, isValid⟩
    cases isRead : readTable tree file with
    | error error =>
        rw [isRead] at isValid
        cases isValid
    | ok read =>
        rw [isRead] at isValid
        obtain ⟨rfl, rfl⟩ := Prod.mk.inj (Option.some.inj isValid)
        exact ⟨isFile, isRead⟩
  · rintro ⟨isFile, isRead⟩
    refine ⟨path, isFile, ?_⟩
    rw [isRead]
    rfl

/-- The valid tables and the warnings are all the directory contains. -/
theorem contains_valid {tree : Tree} (wellFormed : tree.IsWellFormed) (directory : Directory) :
    directory.Contains tree (directory.valid tree)
      ((directory.files tree).filterMap (warning? tree)) where
  ascending := by
    refine List.pairwise_map.2 ((ascending_files wellFormed).filterMap _ ?_)
    intro earlier later inOrder first isFirst second isSecond
    obtain ⟨_, -, rfl⟩ := Option.map_eq_some_iff.1 isFirst
    obtain ⟨_, -, rfl⟩ := Option.map_eq_some_iff.1 isSecond
    exact inOrder
  members path table := mem_valid
  warned warning member := by
    obtain ⟨path, isFile, isWarning⟩ := List.mem_filterMap.1 member
    obtain ⟨error, isError, rfl⟩ := Option.map_eq_some_iff.1 isWarning
    refine ⟨path, error, mem_files.1 isFile, ?_, rfl⟩
    cases read : readTable tree path with
    | ok table =>
        rw [read] at isError
        cases isError
    | error other =>
        rw [read] at isError
        rw [Option.some.inj isError]
  counted := by
    rw [← length_valid, length_offers_add_warnings, length_files wellFormed]

/-- A later entry is listed first, and it holds no table. -/
def backwards : Listing := .entries [.ok "b.toml", .ok "a.toml"]

theorem tablesTree_isWellFormed : tablesTree.IsWellFormed :=
  Tree.isWellFormed_iff.2 (by decide +kernel)

def workspaceDirectory : Directory := ⟨".validate-operations/rules", .workspace⟩

theorem names_workspace : workspaceDirectory.names tablesTree = ["a.toml", "b.toml"] :=
  names_of_listed locate_named workspace_listed.2

theorem lists_backwards : workspaceDirectory.Lists tablesTree backwards :=
  @Directory.Lists.entries _ _ _ _ ["b.toml", "a.toml"] locate_named workspace_listed.2
    (.swap "a.toml" "b.toml" [])

end OperationCheck.Rules
