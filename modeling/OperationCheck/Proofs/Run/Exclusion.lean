import OperationCheck.Proofs.Documents.Loading
import OperationCheck.Proofs.Run.Stages

/-!
Files that are never documents. A finder excludes files one after another, and it knows each of them
however it is spelled. The main statement says which files a finder keeps, and that a run reports on
those of all the files of its pointer but the schema.
-/

namespace OperationCheck.Documents

open OperationCheck.Files

/-- A finder begins without excluding anything. -/
def Finder.atRoot (root : String) : Finder := ⟨root, []⟩

def Finder.exclude (finder : Finder) (path : String) : Finder :=
  { finder with excluded := finder.excluded ++ [path] }

def Finder.excludeAll (finder : Finder) (paths : List String) : Finder :=
  paths.foldl Finder.exclude finder

section

variable {tree : Tree}

/-- One path more excludes the files of its identity, and those that were excluded before. -/
theorem excludes_exclude (finder : Finder) (path file : String) :
    (finder.exclude path).excludes tree file =
      (finder.excludes tree file ||
        decide (tree.identity (join finder.root path) = tree.identity file)) := by
  rw [Finder.excludes, Finder.exclude, List.any_append, List.any_cons, List.any_nil, Bool.or_false]
  rfl

/-- One more file to exclude only takes away what it is the same as. -/
theorem discover_exclude (finder : Finder) (path pointer : String) :
    (finder.exclude path).discover tree pointer =
      (finder.discover tree pointer).map fun files => files.filter fun file =>
        tree.identity (join finder.root path) ≠ tree.identity file := by
  have sameRoot : (finder.exclude path).root = finder.root := rfl
  have sameBase : (finder.exclude path).base pointer = finder.base pointer := rfl
  have found : (finder.exclude path).found tree pointer = finder.found tree pointer := by
    rw [Finder.found, Finder.found, sameRoot, sameBase]
  rw [Finder.discover, Finder.discover, found]
  cases finder.found tree pointer with
  | error error => rfl
  | ok files =>
      refine congrArg Except.ok ?_
      dsimp only
      rw [List.filter_filter]
      refine List.filter_congr fun file _ => ?_
      rw [excludes_exclude, Bool.not_or, Bool.and_comm, decide_not]

/-- Any number of files to exclude only take away what is the same as one of them. -/
theorem discover_excludeAll (finder : Finder) (paths : List String) (pointer : String) :
    (finder.excludeAll paths).discover tree pointer =
      (finder.discover tree pointer).map fun files => files.filter fun file =>
        ∀ path ∈ paths, tree.identity (join finder.root path) ≠ tree.identity file := by
  induction paths generalizing finder with
  | nil =>
      rw [Finder.excludeAll, List.foldl_nil]
      cases finder.discover tree pointer with
      | error error => rfl
      | ok files => exact congrArg Except.ok (by simp)
  | cons path paths ih =>
      have next : finder.excludeAll (path :: paths) = (finder.exclude path).excludeAll paths := rfl
      rw [next, ih, discover_exclude]
      cases finder.discover tree pointer with
      | error error => rfl
      | ok files =>
          refine congrArg Except.ok ?_
          dsimp only
          rw [List.filter_filter]
          refine List.filter_congr fun file _ => ?_
          rw [Bool.eq_iff_iff, Bool.and_eq_true, decide_eq_true_eq, decide_eq_true_eq,
            decide_eq_true_eq, List.forall_mem_cons, and_comm]
          rfl

/-- A path is the same as that of a file when it names the place of that file. A path that names no
place is not, unless it spells that place out. -/
theorem identity_eq_iff {path file : String} {place : Place}
    (isPlace : tree.canonical? file = some place) :
    tree.identity path = tree.identity file ↔
      tree.canonical? path = some place ∨
        tree.canonical? path = none ∧ components path = .root :: place.map .normal := by
  rw [Tree.identity_of_canonical isPlace, Tree.identity]
  cases tree.canonical? path with
  | none => simp
  | some other => simp [List.map_inj_right fun _ _ => Component.normal.inj]

/-- A file that was found leads to a place of the tree. -/
theorem place_of_discovered (navigable : tree.IsNavigable) {finder : Finder} {pointer file : String}
    {files : List String} (discovered : finder.discover tree pointer = .ok files)
    (member : file ∈ files) : ∃ place, tree.canonical? file = some place := by
  obtain ⟨all, found, rfl⟩ := exists_found_of_discover discovered
  exact exists_place_of_isFile (isFile_of_found navigable found (List.mem_filter.1 member).1)

end

/-- Only a file has bytes at its place. -/
theorem content_of_bytesAt {tree : Tree} {place : Place} {bytes : ByteArray}
    (isRead : tree.bytesAt place = .ok bytes) : tree.content? place = some (.file bytes) := by
  unfold Tree.bytesAt at isRead
  split at isRead
  · cases isRead
  · split at isRead
    · next isContent => rw [isContent, Except.ok.inj isRead]
    · cases isRead
    · cases isRead

/-- Only a file can be read. -/
theorem isFile_of_readText {tree : Tree} {path text : String}
    (isText : tree.readText path = .ok text) : tree.isFile path = true := by
  unfold Tree.readText Tree.readBytes at isText
  cases located : tree.locate path with
  | error fault =>
      rw [located] at isText
      cases isText
  | ok place =>
      rw [located, Except.bind] at isText
      cases isRead : tree.bytesAt place with
      | error fault =>
          rw [isRead] at isText
          cases isText
      | ok bytes => exact isFile_of_locate located (content_of_bytesAt isRead)

end OperationCheck.Documents

namespace OperationCheck

open OperationCheck.Documents OperationCheck.Files OperationCheck.Rules OperationCheck.Source
open OperationCheck.TypeSystem

/-- Only a local schema has a path. -/
def Configuration.schemaPath? (configuration : Configuration) : Option String :=
  (Pointer.detect configuration.schema).bind Pointer.localPath?

/-- The finder of a run excludes the file of its schema, if the schema is one. -/
theorem finderFor_eq (configuration : Configuration) :
    finderFor configuration.schema =
      (Finder.atRoot ".").excludeAll configuration.schemaPath?.toList := by
  rw [finderFor, Configuration.schemaPath?]
  cases (Pointer.detect configuration.schema).bind Pointer.localPath? <;> rfl

section

variable {world : World} {configuration : Configuration} {materials : Materials}

/-- A local schema that cannot be read is not fetched. -/
theorem fetched_of_localPath {tree : Tree} {pointer : Pointer} {path : String} {fault : Fault}
    (isPath : pointer.localPath? = some path) (unreadable : tree.readText path = .error fault)
    (network : Http.Network) (headers : List Http.Header) :
    (fetched tree network headers pointer).toOption = none := by
  have failed : readFile tree path = .error (.unreadable path fault) := by
    rw [readFile, unreadable]
    rfl
  cases pointer with
  | graphQlFile own | jsonFile own =>
      obtain rfl := Option.some.inj isPath
      rw [fetched, failed]
      rfl
  | endpoint url | remoteGraphQl url | remoteJson url => cases isPath

/-- The file of a local schema has been read. -/
theorem Materials.BelongTo.isFile (belong : materials.BelongTo world configuration) {path : String}
    (isLocal : configuration.schemaPath? = some path) : world.tree.isFile path = true := by
  obtain ⟨pointer, detected, isPath⟩ := Option.bind_eq_some_iff.1 isLocal
  cases isText : world.tree.readText path with
  | ok text => exact isFile_of_readText isText
  | error fault =>
      have isSchema := belong.schema
      have none := fetched_of_localPath isPath isText world.network configuration.headers
      rw [Configuration.schema?, Configuration.source?, detected, Option.bind_some, none]
        at isSchema
      cases isSchema

/-- The documents of some files. -/
def documentsOf (tree : Tree) (files : List String) : List Document :=
  files.flatMap fun file => fileDocuments tree file ((Finder.atRoot ".").location file)

/-- The documents a run loads are those of the files found without an exclusion, less the ones that
are the schema's file. -/
theorem Materials.BelongTo.documents_eq (belong : materials.BelongTo world configuration) :
    ∃ files, (Finder.atRoot ".").discover world.tree configuration.operation = .ok files ∧
      materials.documents = documentsOf world.tree (files.filter fun file =>
        ∀ path ∈ configuration.schemaPath?.toList,
          world.tree.identity (join "." path) ≠ world.tree.identity file) := by
  obtain ⟨kept, isKept, documents⟩ := belong.documents
  rw [Configuration.files, finderFor_eq, discover_excludeAll] at isKept
  cases discovered : (Finder.atRoot ".").discover world.tree configuration.operation with
  | error error =>
      rw [discovered] at isKept
      cases isKept
  | ok files =>
      rw [discovered] at isKept
      obtain rfl := Except.ok.inj isKept
      exact ⟨files, rfl, documents⟩

end

/-- A finder keeps all files but those that are the same as an excluded one, in their order. A path
is the same as that of a file when both name one place. If it names none, it must spell out the
place of the file. The documents that a run reports on are those of all the files of its pointer,
except for the file that the schema was read from. -/
theorem run_excludes_schema {tree : Tree} (navigable : tree.IsNavigable) :
    (∀ root excluded pointer,
      ((Finder.atRoot root).excludeAll excluded).discover tree pointer =
        ((Finder.atRoot root).discover tree pointer).map fun files => files.filter fun file =>
          ∀ path ∈ excluded, tree.identity (join root path) ≠ tree.identity file) ∧
    (∀ root pointer files, (Finder.atRoot root).discover tree pointer = .ok files →
      ∀ file ∈ files, ∃ place, tree.canonical? file = some place ∧
        ∀ path, tree.identity path = tree.identity file ↔
          tree.canonical? path = some place ∨
            tree.canonical? path = none ∧ components path = .root :: place.map .normal) ∧
    ∀ network configuration materials,
      (loadMaterials ⟨tree, network⟩ configuration).result = .ok materials →
        ∃ files kept, (Finder.atRoot ".").discover tree configuration.operation = .ok files ∧
          (∀ path, configuration.schemaPath? = some path →
            ∃ place, tree.canonical? path = some place ∧
              kept = files.filter fun file => tree.canonical? file ≠ some place) ∧
          (configuration.schemaPath? = none → kept = files) ∧
          materials.documents = documentsOf tree kept ∧
          ∀ presentation writer, run ⟨tree, network⟩ configuration presentation writer =
            .ofReport (loadMaterials ⟨tree, network⟩ configuration).warnings
              (Report.report materials.validator (materials.formatter presentation)
                configuration.operation writer (documentsOf tree kept)) := by
  refine ⟨fun root excluded pointer => discover_excludeAll _ excluded pointer,
    fun root pointer files discovered file member => ?_,
    fun network configuration materials loaded => ?_⟩
  · obtain ⟨place, isPlace⟩ := place_of_discovered navigable discovered member
    exact ⟨place, isPlace, fun path => identity_eq_iff isPlace⟩
  · obtain ⟨-, belong⟩ := belongTo_of_loaded loaded
    obtain ⟨files, discovered, documents⟩ := belong.documents_eq
    -- A schema in a file excludes the place of that file, and a remote one excludes nothing.
    refine ⟨files, _, discovered, fun path isLocal => ?_, fun remote => ?_, documents,
      fun presentation writer => ?_⟩
    · have isFile := belong.isFile isLocal
      obtain ⟨place, isPlace⟩ := exists_place_of_isFile isFile
      have current := (canonical_current (ne_empty_of_isFile isFile)).trans isPlace
      refine ⟨place, isPlace, List.filter_congr fun file member => ?_⟩
      obtain ⟨own, isOwn⟩ := place_of_discovered navigable discovered member
      -- Both paths name a place, so nothing is left out for the way in which it is spelled.
      have same : tree.identity (join "." path) = tree.identity file ↔
          tree.canonical? file = some place := by
        rw [identity_eq_iff isOwn, current, isOwn]
        simp [eq_comm]
      rw [isLocal]
      simp [same]
    · rw [remote]
      simp
    · rw [← documents]
      exact run_of_loaded presentation writer loaded

/-- A link beside the files of a sample leads to their schema. -/
def linkedTree : Tree :=
  { sampleTree true with
    entries := (sampleTree true).entries ++ [(["link.graphql"], .link "s.graphql")] }

def linkedWorld : World := ⟨linkedTree, Http.Network.unreachable⟩

/-- The schema is read through the link, and the pointer finds its file. -/
def linkedConfiguration : Configuration :=
  { sampleConfiguration with schema := "link.graphql", operation := "*.g*" }

theorem linkedTree_isNavigable : linkedTree.IsNavigable :=
  Tree.isNavigable_iff.2 ⟨Tree.isWellFormed_iff.2 (by decide +kernel), by decide +kernel⟩

theorem linked_discovered :
    (Finder.atRoot ".").discover linkedTree linkedConfiguration.operation =
      .ok ["./q.gql", "./s.graphql"] := by cbv

theorem linked_source : linkedConfiguration.source? linkedWorld =
    some (.ok "type Query\x7ba:Int\x7d") := by cbv

/-- What the pointer finds can be read, whether or not it is excluded. -/
theorem linked_files : ∃ files, linkedConfiguration.files linkedWorld = .ok files ∧
    files.findSome? (fileError? linkedTree) = none := by
  have readable : ∀ file ∈ ["./q.gql", "./s.graphql"], fileError? linkedTree file = none :=
    List.forall_mem_cons.2 ⟨by cbv, List.forall_mem_singleton.2 (by cbv)⟩
  rw [Configuration.files, finderFor_eq, discover_excludeAll]
  have discovered : (Finder.atRoot ".").discover linkedWorld.tree linkedConfiguration.operation =
      .ok ["./q.gql", "./s.graphql"] := linked_discovered
  rw [discovered]
  refine ⟨_, rfl, List.findSome?_eq_none_iff.2 fun file member => ?_⟩
  exact readable file (List.mem_filter.1 member).1

theorem linked_passes : firstError? linkedWorld linkedConfiguration = none := by
  have missing : linkedTree.locate ".validate-operations/rules" = .error .notFound :=
    (locate_workspace linkedTree).trans rfl
  have present : linkedTree.isFile "t.toml" = true := by cbv
  obtain ⟨table, isTable⟩ : ∃ table, readTable linkedTree "t.toml" = .ok table := ⟨_, by cbv⟩
  have directories : Stage.directories.error? linkedWorld linkedConfiguration = none := by
    simp [Stage.error?, linkedWorld, linkedConfiguration, sampleConfiguration, Directory.error?,
      missing]
  have selection : Stage.selection.error? linkedWorld linkedConfiguration = none := by
    simp [Stage.error?, Configuration.table, Registry.select, linkedWorld, linkedConfiguration,
      sampleConfiguration, present, isTable]
  have fetch : linkedConfiguration.fetchError? linkedWorld = none := by cbv
  have valid : errorOf (Schema.read linkedConfiguration.schema "type Query\x7ba:Int\x7d") =
      none := by
    decide +kernel
  obtain ⟨files, isFiles, readable⟩ := linked_files
  exact firstError_eq_none directories selection rfl fetch linked_source valid isFiles readable

/-- The schema is spelled in another way than the pointer finds it, and it is still left out of the
report. -/
theorem run_excludes_schema_linked :
    linkedTree.IsNavigable ∧ ∃ materials,
      (loadMaterials linkedWorld linkedConfiguration).result = .ok materials ∧
      materials.documents = [⟨"q.gql", "\x7bb\x7d"⟩] ∧
      ∀ presentation writer, run linkedWorld linkedConfiguration presentation writer =
        .ofReport (loadMaterials linkedWorld linkedConfiguration).warnings
          (Report.report materials.validator (materials.formatter presentation)
            linkedConfiguration.operation writer [⟨"q.gql", "\x7bb\x7d"⟩]) := by
  obtain ⟨-, -, runs⟩ := run_excludes_schema linkedTree_isNavigable
  obtain ⟨materials, loaded⟩ := exists_loaded_of_passed linked_passes
  obtain ⟨files, kept, discovered, without, -, documents, reports⟩ := runs _ _ _ loaded
  obtain rfl := Except.ok.inj (discovered.symm.trans linked_discovered)
  have isLocal : linkedConfiguration.schemaPath? = some "link.graphql" := by cbv
  obtain ⟨place, isPlace, isKept⟩ := without _ isLocal
  have link : linkedTree.canonical? "link.graphql" = some ["s.graphql"] := by cbv
  have schema : linkedTree.canonical? "./s.graphql" = some ["s.graphql"] := by cbv
  have other : linkedTree.canonical? "./q.gql" = some ["q.gql"] := by cbv
  obtain rfl := Option.some.inj (isPlace.symm.trans link)
  have onlyOther : kept = ["./q.gql"] := by
    rw [isKept]
    simp [schema, other]
  have isDocument : documentsOf linkedTree kept = [⟨"q.gql", "\x7bb\x7d"⟩] := by
    rw [onlyOther]
    cbv
  rw [isDocument] at documents reports
  exact ⟨linkedTree_isNavigable, materials, loaded, documents, reports⟩

end OperationCheck
