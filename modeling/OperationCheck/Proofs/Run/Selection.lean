import OperationCheck.Proofs.Files.Path
import OperationCheck.Proofs.Run.Stages

/-!
The rule table of a run. A table that is asked for by its name comes from the directory of the
highest priority that holds a valid table of that name, and from the last file of that directory
which does. The main statement says so for every configuration of the program, that a run makes its
report with this table, and that it fails for an unknown one exactly when there is none.
-/

namespace OperationCheck.Rules

open OperationCheck.Files

/-- The entries of a directory with the extension of tables may hold tables. -/
def Directory.HasFile (directory : Directory) (tree : Tree) (path : String) : Prop :=
  ∃ place names, tree.canonical? directory.path = some place ∧ tree.list place = .ok names ∧
    (∃ name ∈ names, path = join directory.path name) ∧ extension? path = some tableExtension

/-- A file of a directory holds a valid table of a name. -/
structure Directory.Holds (directory : Directory) (tree : Tree) (name path : String)
    (table : Table) : Prop where
  file : directory.HasFile tree path
  valid : readTable tree path = .ok table
  named : table.name = name

/-- A directory gives the table that is held by the last of its files which hold a valid table of
the name. -/
def Directory.Gives (directory : Directory) (tree : Tree) (name : String) (table : Table) : Prop :=
  ∃ path, directory.Holds tree name path table ∧
    ∀ other otherTable, directory.Holds tree name other otherTable → pathLe other path = true

/-- No file of the directories holds a valid table of the name. -/
def NoneHolds (tree : Tree) (directories : List Directory) (name : String) : Prop :=
  ∀ directory ∈ directories, ∀ path table, ¬directory.Holds tree name path table

/-- A table is the choice for a name when the directory of the highest priority that holds a valid
table of that name gives it, or when it is built in and no directory holds one. -/
inductive IsChoice (tree : Tree) (directories : List Directory) (name : String) (table : Table) :
    Prop where
  | given (directory : Directory) (member : directory ∈ directories)
      (gives : directory.Gives tree name table)
      (highest : ∀ other ∈ directories, directory.priority.rank < other.priority.rank →
        ∀ path otherTable, ¬other.Holds tree name path otherTable)
  | builtIn (none : NoneHolds tree directories name) (member : table ∈ builtInTables)
      (named : table.name = name)

/-- A directory can be loaded when nothing is there, or when its names can be listed. -/
def Directory.IsReadable (directory : Directory) (tree : Tree) : Prop :=
  tree.canonical? directory.path = none ∨
    ∃ place names, tree.canonical? directory.path = some place ∧ tree.list place = .ok names

/-- A directory that can be listed, or is missing, stops nothing. -/
theorem Directory.IsReadable.error_eq {directory : Directory} {tree : Tree}
    (readable : directory.IsReadable tree) : directory.error? tree = none := by
  unfold Directory.error?
  cases located : tree.locate directory.path with
  | error fault => rfl
  | ok place =>
      have isPlace : tree.canonical? directory.path = some place := by
        rw [Tree.canonical?, located]
        rfl
      rcases readable with missing | ⟨other, names, isOther, listed⟩
      · rw [isPlace] at missing
        cases missing
      · obtain rfl := Option.some.inj (isOther.symm.trans isPlace)
        dsimp only
        rw [listed]

/-- The table files are the entries under the path that have the extension of a table. -/
theorem mem_tablePaths {path : String} {names : List String} {file : String} :
    file ∈ tablePaths path names ↔
      (∃ name ∈ names, file = join path name) ∧ extension? file = some tableExtension := by
  rw [tablePaths, List.mem_mergeSort, List.mem_filter, List.mem_map, beq_iff_eq]
  simp only [eq_comm]

/-- The files of a directory are those of its entries that have the extension of tables. -/
theorem mem_files {directory : Directory} {tree : Tree} {path : String} :
    path ∈ directory.files tree ↔ directory.HasFile tree path := by
  unfold Directory.files Directory.HasFile Tree.canonical?
  cases located : tree.locate directory.path with
  | error fault => simp [Except.toOption]
  | ok place =>
      dsimp only [Except.toOption]
      cases listed : tree.list place with
      | error fault =>
          refine iff_of_false List.not_mem_nil ?_
          rintro ⟨other, names, isOther, isListed, -⟩
          obtain rfl := Option.some.inj isOther
          cases listed.symm.trans isListed
      | ok names =>
          rw [mem_tablePaths]
          constructor
          · exact fun isFile => ⟨place, names, rfl, listed, isFile⟩
          · rintro ⟨other, others, isOther, isListed, isFile⟩
            obtain rfl := Option.some.inj isOther
            obtain rfl := Except.ok.inj (listed.symm.trans isListed)
            exact isFile

/-- The files of a directory are read in the order of their paths. -/
theorem pairwise_files (directory : Directory) (tree : Tree) :
    (directory.files tree).Pairwise fun earlier later => pathLe earlier later = true := by
  unfold Directory.files
  split
  · exact .nil
  · split
    · exact pairwise_mergeSort_pathLe _
    · exact .nil

/-- The offers that directories add to those of the program, one directory after another. -/
def offersOf (tree : Tree) (directories : List Directory) : List Held :=
  Registry.builtInOffers ++
    directories.flatMap fun directory => (directory.files tree).filterMap (directory.offer? tree)

/-- The registry of a run holds the winners among the built-in tables and those of the
directories. -/
theorem offerDirectories_reflects (tree : Tree) (directories : List Directory) :
    (Registry.withBuiltIn.offerDirectories tree directories).Reflects
      (offersOf tree directories) := by
  have reflects (offers more : List Held) :
      ((Registry.empty.offerAll offers).offerAll more).Reflects (offers ++ more) := by
    have first := reflects_empty.offerAll offers
    rw [List.nil_append] at first
    exact first.offerAll more
  rw [Registry.withBuiltIn, Registry.addBuiltIn, Registry.offerDirectories, history,
    List.flatMap_map, offersOf]
  exact reflects _ _

/-- A file offers the table it holds, at the priority of its directory. -/
theorem offer_eq_some {directory : Directory} {tree : Tree} {path : String} {offered : Held} :
    directory.offer? tree path = some offered ↔
      ∃ table, readTable tree path = .ok table ∧ offered = ⟨table, directory.priority, some path⟩ := by
  unfold Directory.offer?
  cases readTable tree path with
  | error error => simp [Except.toOption]
  | ok table => simp [Except.toOption, eq_comm]

/-- Each file that holds a valid table makes an offer. -/
theorem Directory.Holds.mem_offersOf {directory : Directory} {tree : Tree} {name path : String}
    {table : Table} (holds : directory.Holds tree name path table) {directories : List Directory}
    (member : directory ∈ directories) :
    ⟨table, directory.priority, some path⟩ ∈ offersOf tree directories := by
  refine List.mem_append_right _ (List.mem_flatMap.2 ⟨directory, member, ?_⟩)
  exact List.mem_filterMap.2
    ⟨path, mem_files.2 holds.file, offer_eq_some.2 ⟨table, holds.valid, rfl⟩⟩

/-- Every offer is made by the program or by a file that holds a valid table. -/
theorem mem_offersOf {tree : Tree} {directories : List Directory} {offered : Held}
    (member : offered ∈ offersOf tree directories) :
    (offered.table ∈ builtInTables ∧ offered.priority = .builtIn) ∨
      ∃ directory ∈ directories, ∃ path, offered.priority = directory.priority ∧
        offered.path = some path ∧
          directory.Holds tree offered.table.name path offered.table := by
  rcases List.mem_append.1 member with builtIn | loaded
  · obtain ⟨table, isBuiltIn, rfl⟩ := List.mem_map.1 builtIn
    exact .inl ⟨isBuiltIn, rfl⟩
  · obtain ⟨directory, isDirectory, inDirectory⟩ := List.mem_flatMap.1 loaded
    obtain ⟨path, isFile, isOffer⟩ := List.mem_filterMap.1 inDirectory
    obtain ⟨table, valid, rfl⟩ := offer_eq_some.1 isOffer
    exact .inr ⟨directory, isDirectory, path, rfl, rfl, mem_files.1 isFile, valid, rfl⟩

/-- Nothing of a name is offered when no file holds a table of it and none is built in. -/
theorem no_offer_iff {tree : Tree} {directories : List Directory} {name : String} :
    (∀ offered ∈ offersOf tree directories, offered.table.name ≠ name) ↔
      NoneHolds tree directories name ∧ ∀ table ∈ builtInTables, table.name ≠ name := by
  constructor
  · intro none
    refine ⟨fun directory member path table holds => ?_, fun table member => ?_⟩
    · exact none _ (holds.mem_offersOf member) holds.named
    · exact none ⟨table, .builtIn, .none⟩ (List.mem_append_left _ (List.mem_map_of_mem member))
  · rintro ⟨none, notBuiltIn⟩ offered member named
    rcases mem_offersOf member with ⟨isBuiltIn, -⟩ | ⟨directory, isDirectory, path, -, -, holds⟩
    · exact notBuiltIn _ isBuiltIn named
    · exact none directory isDirectory path _ (named ▸ holds)

/-- Offers of the same priority that come from files are made in the order of their paths. -/
def InPathOrder (earlier later : Held) : Prop :=
  earlier.priority = later.priority → ∀ path otherPath, earlier.path = some path →
    later.path = some otherPath → pathLe path otherPath = true

/-- Offers of one priority come from one directory, so among them the order of offers is the order
of paths. -/
theorem inPathOrder_offersOf (tree : Tree) {directories : List Directory}
    (distinct : directories.Pairwise fun first second => first.priority ≠ second.priority) :
    (offersOf tree directories).Pairwise InPathOrder := by
  have noPath : ∀ held ∈ Registry.builtInOffers, held.path = none := by
    intro held member
    obtain ⟨table, -, rfl⟩ := List.mem_map.1 member
    rfl
  refine List.pairwise_append.2 ⟨?_, List.pairwise_flatMap.2 ⟨?_, ?_⟩, ?_⟩
  · exact List.pairwise_map.2 (List.pairwise_of_forall fun _ _ _ _ _ none => nomatch none)
  · intro directory _
    refine (pairwise_files directory tree).filterMap _ ?_
    intro path otherPath ordered offered isOffer other isOther _ _ _ isPath isOtherPath
    obtain ⟨_, _, rfl⟩ := offer_eq_some.1 isOffer
    obtain ⟨_, _, rfl⟩ := offer_eq_some.1 isOther
    rw [← Option.some.inj isPath, ← Option.some.inj isOtherPath]
    exact ordered
  · refine distinct.imp fun differ offered isOffer other isOther same => ?_
    obtain ⟨_, _, fromFile⟩ := List.mem_filterMap.1 isOffer
    obtain ⟨_, _, rfl⟩ := offer_eq_some.1 fromFile
    obtain ⟨_, _, fromOther⟩ := List.mem_filterMap.1 isOther
    obtain ⟨_, _, rfl⟩ := offer_eq_some.1 fromOther
    exact absurd same differ
  · intro held member _ _ _ path _ isPath _
    cases (noPath held member).symm.trans isPath

/-- Directories come in the order of their priorities, above all tables of the program. -/
structure Ordered (directories : List Directory) : Prop where
  ascending : directories.Pairwise fun first second => first.priority.rank < second.priority.rank
  positive : ∀ directory ∈ directories, 0 < directory.priority.rank

/-- The table that wins is the choice for its name. -/
theorem Wins.isChoice {tree : Tree} {directories : List Directory} {name : String} {winner : Held}
    (ordered : Ordered directories) (wins : Wins (offersOf tree directories) name winner) :
    IsChoice tree directories name winner.table := by
  rcases mem_offersOf wins.mem with
    ⟨builtIn, lowest⟩ | ⟨directory, member, path, itsPriority, itsPath, holds⟩
  · refine .builtIn (fun directory member path table holds => ?_) builtIn wins.name_eq
    have highest := wins.highest (holds.mem_offersOf member) holds.named
    rw [lowest] at highest
    exact absurd (ordered.positive directory member) (Nat.not_lt_of_le highest)
  -- The winner came from a directory. Later files of it and higher directories are both beaten.
  · rw [wins.name_eq] at holds
    refine .given directory member ⟨path, holds, fun other otherTable otherHolds => ?_⟩ ?_
    · -- A file behind the winner would have a lower priority, but the directory is the same.
      have otherOffer := otherHolds.mem_offersOf member
      have inOrder := inPathOrder_offersOf tree
        (ordered.ascending.imp fun less same => Nat.ne_of_lt less (congrArg _ same))
      obtain ⟨earlier, later, split, -, -, after⟩ := wins
      rw [split] at otherOffer inOrder
      rcases List.mem_append.1 otherOffer with before | here
      · have related := (List.pairwise_append.1 inOrder).2.2 _ before winner List.mem_cons_self
        exact related itsPriority.symm other path rfl itsPath
      · rcases List.mem_cons.1 here with same | behind
        · have samePath : some other = some path := (congrArg Held.path same).trans itsPath
          rw [Option.some.inj samePath]
          exact (pathLe_total path path).elim id id
        · have lower := after _ behind otherHolds.named
          rw [itsPriority] at lower
          exact absurd lower (Nat.lt_irrefl _)
    · intro other isOther higher otherPath otherTable otherHolds
      have highest := wins.highest (otherHolds.mem_offersOf isOther) otherHolds.named
      rw [itsPriority] at highest
      exact absurd higher (Nat.not_lt_of_le highest)

end OperationCheck.Rules

namespace OperationCheck

open OperationCheck.CommandLine OperationCheck.Files OperationCheck.Report OperationCheck.Rules

/-- The directories of an environment are searched in ascending priority. -/
theorem ordered_directories (environment : Environment) (explicit : Option String) :
    Ordered (environment.directories explicit) := by
  unfold Environment.directories
  cases environment.userDirectory? <;> cases explicit <;>
    exact ⟨by simp [Priority.rank], by simp [Priority.rank]⟩

/-- The directories of a configuration are searched in ascending priority, whatever the
arguments. -/
theorem ordered_of_configured {environment : Environment} {arguments : List String}
    {configuration : Configuration}
    (configured : configurationOf? environment arguments = some configuration) :
    Ordered configuration.directories := by
  cases isRead : Arguments.read arguments with
  | error refusal => simp [configurationOf?, isRead] at configured
  | ok parsed =>
      simp only [configurationOf?, isRead, Configuration.make] at configured
      cases headers : parsed.headers.mapM Http.Header.parse with
      | error error => simp [headers, bind, Except.bind, Except.toOption] at configured
      | ok accepted =>
          simp only [headers, bind, Except.bind, pure, Except.pure, Except.toOption,
            Option.some.injEq] at configured
          rw [← configured]
          exact ordered_directories environment parsed.rulesDirectory

section

variable {world : World} {configuration : Configuration}

/-- A table that is asked for by its name is the choice for it, and it is unknown when there is
none. -/
theorem table_of_name (ordered : Ordered configuration.directories)
    (noFile : world.tree.isFile configuration.rules = false) :
    (∃ table, configuration.table world = .ok table ∧
        IsChoice world.tree configuration.directories configuration.rules table ∧
        ¬∀ offered ∈ offersOf world.tree configuration.directories,
          offered.table.name ≠ configuration.rules) ∨
      (∃ available, configuration.table world =
          .error (.unknownTable configuration.rules available)) ∧
        ∀ offered ∈ offersOf world.tree configuration.directories,
          offered.table.name ≠ configuration.rules := by
  have reflects := offerDirectories_reflects world.tree configuration.directories
    configuration.rules
  rw [Configuration.table, Registry.select, noFile, Configuration.registry,
    if_neg Bool.false_ne_true]
  cases found : (Registry.withBuiltIn.offerDirectories world.tree configuration.directories).get?
      configuration.rules with
  | some held =>
      rw [found] at reflects
      exact .inl ⟨held.table, rfl, reflects.isChoice ordered,
        fun none => none held reflects.mem reflects.name_eq⟩
  | none =>
      rw [found] at reflects
      exact .inr ⟨⟨_, rfl⟩, reflects⟩

/-- Directories that can be read give no error, one by one. -/
theorem findSome_error_of_readable
    (readable : ∀ directory ∈ configuration.directories, directory.IsReadable world.tree) :
    (configuration.directories.findSome? fun directory => directory.error? world.tree) = none :=
  List.findSome?_eq_none_iff.2 fun directory member => (readable directory member).error_eq

/-- Directories that can be read let their stage pass. -/
theorem no_directory_error
    (readable : ∀ directory ∈ configuration.directories, directory.IsReadable world.tree) :
    Stage.directories.error? world configuration = none := by
  rw [Stage.error?, findSome_error_of_readable readable]
  rfl

/-- Only the first two stages fail for a table. -/
theorem stage_of_registry {stage : Stage} {fault : RegistryError}
    (failed : stage.error? world configuration = some (.registry fault)) :
    stage = .directories ∨ stage = .selection := by
  cases stage with
  | directories => exact .inl rfl
  | selection => exact .inr rfl
  | headers | fetch | conversion | validation | discovery | reading =>
      obtain ⟨_, _, other⟩ := Option.map_eq_some_iff.1 failed
      cases other

/-- A run that has no table fails at once. -/
theorem run_of_table_error {fault : RegistryError}
    (readable : ∀ directory ∈ configuration.directories, directory.IsReadable world.tree)
    (failed : configuration.table world = .error fault) (presentation : Presentation)
    (writer : Writer) :
    (run world configuration presentation writer).result = .error (.registry fault) := by
  have first : firstError? world configuration = some (.registry fault) := by
    have selection : Stage.selection.error? world configuration = some (.registry fault) := by
      rw [Stage.error?, failed]
      rfl
    simp only [firstError?, Stage.order, List.findSome?_cons, no_directory_error readable,
      selection]
  cases ended : (loadMaterials world configuration).result with
  | error last =>
      have isFirst := firstError_of_failed ended
      rw [run_of_error presentation writer ended, Option.some.inj (isFirst.symm.trans first)]
  | ok materials => cases (belongTo_of_loaded ended).1.symm.trans first

/-- A run does not fail for a table that it has. -/
theorem run_ne_registry {table : Table}
    (readable : ∀ directory ∈ configuration.directories, directory.IsReadable world.tree)
    (chosen : configuration.table world = .ok table) (presentation : Presentation)
    (writer : Writer) (fault : RegistryError) :
    (run world configuration presentation writer).result ≠ .error (.registry fault) := by
  intro failed
  cases ended : (loadMaterials world configuration).result with
  | error last =>
      rw [run_of_error presentation writer ended] at failed
      obtain ⟨stage, -, isError⟩ :=
        List.exists_of_findSome?_eq_some (firstError_of_failed ended)
      rw [Except.error.inj failed] at isError
      rcases stage_of_registry isError with rfl | rfl
      · cases (no_directory_error readable).symm.trans isError
      · simp [Stage.error?, chosen] at isError
  | ok materials =>
      simp only [run, ended, Materials.report] at failed
      split at failed <;> cases failed

/-- With readable directories, what is loaded is the table under the name. -/
theorem loadTable_of_readable
    (readable : ∀ directory ∈ configuration.directories, directory.IsReadable world.tree) :
    (loadTable world.tree configuration).result =
      (configuration.table world).mapError RunError.registry := by
  have noError := findSome_error_of_readable readable
  simp only [loadTable, Outcome.result_bind, Outcome.result_ofExcept, Outcome.result_mapError,
    Registry.load, loadDirectories_result, noError, resultOf_none]
  rfl

end

/-- The directory of the workspace has one file that holds a table and one that does not. -/
def tablesTree : Tree :=
  { sampleTree true with
    entries := (sampleTree true).entries ++ [([".validate-operations"], .directory),
      ([".validate-operations", "rules"], .directory),
      ([".validate-operations", "rules", "a.toml"], .file "table=[\"t\",\"d\"]".toUTF8),
      ([".validate-operations", "rules", "b.toml"], .file "table=".toUTF8)] }

def tablesWorld : World := ⟨tablesTree, Http.Network.unreachable⟩

/-- The arguments ask for a table by its name. -/
def namedArguments : List String := ["-s", "s.graphql", "--rules", "t", "-o", "q.gql"]

def namedConfiguration : Configuration := { sampleConfiguration with rules := "t" }

theorem configurationOf_named :
    configurationOf? ⟨[], false⟩ namedArguments = some namedConfiguration := by
  have read : Arguments.read namedArguments =
      .ok ⟨"s.graphql", "q.gql", [], "t", none, .auto, .auto, "warn"⟩ := by cbv
  have isPath : workspaceTables = ".validate-operations/rules" := by decide +kernel
  simp only [configurationOf?, read, Configuration.make, Environment.directories, isPath]
  rfl

theorem locate_named :
    tablesTree.locate ".validate-operations/rules" = .ok [".validate-operations", "rules"] :=
  (locate_workspace tablesTree).trans rfl

theorem locate_table : tablesTree.locate ".validate-operations/rules/a.toml" =
    .ok [".validate-operations", "rules", "a.toml"] := by
  have relative : isAbsolute ".validate-operations/rules/a.toml" = false := by decide +kernel
  have split : pieces ".validate-operations/rules/a.toml" =
      [".validate-operations", "rules", "a.toml"] := by cbv
  have plain : ".validate-operations/rules/a.toml".contains '\x00' = false := by cbv
  rw [Tree.locate, split, relative, plain]
  rfl

/-- The names in the directory of the workspace can be listed. -/
theorem workspace_listed : tablesTree.canonical? ".validate-operations/rules" =
      some [".validate-operations", "rules"] ∧
    tablesTree.list [".validate-operations", "rules"] = .ok ["a.toml", "b.toml"] := by
  rw [Tree.canonical?, locate_named]
  exact ⟨rfl, rfl⟩

/-- The first file of the directory holds a valid table. -/
theorem workspace_holds : ∃ table,
    Directory.Holds ⟨".validate-operations/rules", .workspace⟩ tablesTree "t"
      ".validate-operations/rules/a.toml" table := by
  obtain ⟨isPlace, listed⟩ := workspace_listed
  have joined : ".validate-operations/rules/a.toml" = join ".validate-operations/rules" "a.toml" := by
    decide +kernel
  have extended : extension? ".validate-operations/rules/a.toml" = some tableExtension := by
    decide +kernel
  have read : tablesTree.readText ".validate-operations/rules/a.toml" =
      .ok "table=[\"t\",\"d\"]" := by
    rw [Tree.readText, Tree.readBytes, locate_table]
    cbv
  have valid : Table.parse "table=[\"t\",\"d\"]" = .ok ⟨"t", some "d", []⟩ := by cbv
  have read : readTable tablesTree ".validate-operations/rules/a.toml" =
      .ok ⟨"t", some "d", []⟩ := by
    rw [readTable, read]
    simp only [valid]
    rfl
  exact ⟨_, ⟨_, _, isPlace, listed, ⟨"a.toml", List.mem_cons_self, joined⟩, extended⟩, read, rfl⟩

/-- The directories of the example can be read. -/
theorem workspace_readable :
    ∀ directory ∈ namedConfiguration.directories, directory.IsReadable tablesTree := by
  intro directory member
  rw [List.mem_singleton.1 member]
  exact .inr ⟨_, _, workspace_listed⟩

/-- Some table of the name is valid. -/
theorem workspace_offers :
    ¬(NoneHolds tablesTree namedConfiguration.directories namedConfiguration.rules ∧
      ∀ table ∈ builtInTables, table.name ≠ namedConfiguration.rules) := by
  rintro ⟨none, -⟩
  obtain ⟨table, holds⟩ := workspace_holds
  exact none _ List.mem_cons_self _ table holds

theorem named_noFile : tablesTree.isFile namedConfiguration.rules = false := by cbv

theorem named_source : namedConfiguration.source? tablesWorld =
    some (.ok "type Query\x7ba:Int\x7d") := by cbv

theorem named_files : namedConfiguration.files tablesWorld = .ok ["./q.gql"] := by cbv

/-- A run that asks for the table by its name comes to its report. -/
theorem named_passes : firstError? tablesWorld namedConfiguration = none := by
  have ordered := ordered_of_configured configurationOf_named
  have selection : Stage.selection.error? tablesWorld namedConfiguration = none := by
    rcases @table_of_name tablesWorld _ ordered named_noFile with ⟨table, isTable, -⟩ | ⟨-, none⟩
    · rw [Stage.error?, isTable]
      rfl
    · exact absurd (no_offer_iff.1 none) workspace_offers
  have fetch : namedConfiguration.fetchError? tablesWorld = none := by cbv
  have valid : errorOf (TypeSystem.Schema.read namedConfiguration.schema
      "type Query\x7ba:Int\x7d") = none := by
    decide +kernel
  have readable : Documents.fileError? tablesWorld.tree "./q.gql" = none := by cbv
  refine firstError_eq_none (no_directory_error workspace_readable) selection rfl fetch
    named_source valid named_files ?_
  rw [List.findSome?_cons, readable, List.findSome?_nil]

end OperationCheck
