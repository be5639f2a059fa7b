import Mathlib
import OperationCheck.Invocation
import OperationCheck.Proofs.Documents.Reading
import OperationCheck.Proofs.Report.Account
import OperationCheck.Proofs.Rules.History
import OperationCheck.Proofs.Source.Fetching

/-!
The stages of a run. The main statement says that a run ends with the error of the first stage that
fails, and without a byte of output. When no stage fails, the run reports on all documents.
-/

namespace OperationCheck

open OperationCheck.CommandLine OperationCheck.Documents OperationCheck.Files OperationCheck.Http
open OperationCheck.Introspection OperationCheck.Report OperationCheck.Rules OperationCheck.Source
open OperationCheck.TypeSystem

/-- Everything that a run does before its report. -/
inductive Stage where
  | directories
  | selection
  | headers
  | fetch
  | conversion
  | validation
  | discovery
  | reading
deriving Repr, DecidableEq

def Stage.order : List Stage :=
  [.directories, .selection, .headers, .fetch, .conversion, .validation, .discovery, .reading]

section

variable (world : World) (configuration : Configuration)

/-- The tables of all the directories. -/
def Configuration.registry : Registry :=
  Registry.withBuiltIn.offerDirectories world.tree configuration.directories

def Configuration.table : Except RegistryError Table :=
  (configuration.registry world).select world.tree configuration.rules

/-- A pointer of an unknown form cannot be fetched. -/
def Configuration.fetchError? : Option LoadError :=
  match Pointer.detect configuration.schema with
  | none => some (.unsupported configuration.schema)
  | some pointer => errorOf (fetched world.tree world.network configuration.headers pointer)

/-- What was fetched is converted to a source. -/
def Configuration.source? : Option (Except LoadError String) :=
  (Pointer.detect configuration.schema).bind fun pointer =>
    (fetched world.tree world.network configuration.headers pointer).toOption.map
      (converted pointer)

/-- The source is read if there is one. -/
def Configuration.schema? : Option (Except InvalidSchema Schema) :=
  ((configuration.source? world).bind Except.toOption).map (Schema.read configuration.schema)

def Configuration.files : Except DocumentError (List String) :=
  (finderFor configuration.schema).discover world.tree configuration.operation

/-- The error of a stage depends on earlier stages only by what they hand over. A stage that is
handed nothing has none. -/
def Stage.error? : Stage → Option RunError
  | .directories =>
      (configuration.directories.findSome? fun directory => directory.error? world.tree).map
        .registry
  | .selection => (errorOf (configuration.table world)).map .registry
  | .headers =>
      (configuration.headers.findSome? headerError?).map fun error => .schema (.badHeader error)
  | .fetch => (configuration.fetchError? world).map .schema
  | .conversion => ((configuration.source? world).bind errorOf).map .schema
  | .validation =>
      ((configuration.schema? world).bind errorOf).map fun invalid => .schema (.invalid invalid)
  | .discovery => (errorOf (configuration.files world)).map .documents
  | .reading =>
      ((configuration.files world).toOption.bind fun files =>
        files.findSome? (fileError? world.tree)).map .documents

/-- The error of the first stage that has one. -/
def firstError? : Option RunError :=
  Stage.order.findSome? fun stage => stage.error? world configuration

/-- The materials of a run are the chosen table, the schema that was read, and the documents of all
files that were found. -/
structure Materials.BelongTo (materials : Materials) : Prop where
  table : configuration.table world = .ok materials.table
  schema : configuration.schema? world = some (.ok materials.schema)
  documents : ∃ files, configuration.files world = .ok files ∧
    materials.documents = files.flatMap fun path =>
      fileDocuments world.tree path ((finderFor configuration.schema).location path)

/-- A result is the first error of some stages, or it is a value that is as expected. -/
inductive Staged {α : Type} (stages : List Stage) (expected : α → Prop) :
    Except RunError α → Prop where
  | failed (error : RunError)
      (first : stages.findSome? (fun stage => stage.error? world configuration) = some error) :
      Staged stages expected (.error error)
  | passed (value : α)
      (none : stages.findSome? (fun stage => stage.error? world configuration) = none)
      (met : expected value) : Staged stages expected (.ok value)

variable {world configuration}

/-- Later stages only take place when earlier ones have passed. -/
theorem Staged.bind {α β : Type} {before after : List Stage} {expected : α → Prop}
    {wanted : β → Prop} {result : Except RunError α} {next : α → Except RunError β}
    (first : Staged world configuration before expected result)
    (second : ∀ value, expected value → Staged world configuration after wanted (next value)) :
    Staged world configuration (before ++ after) wanted (result.bind next) := by
  cases first with
  | failed error found =>
      refine .failed error ?_
      rw [List.findSome?_append, found]
      rfl
  | passed value passedBefore met =>
      have later := second value met
      simp only [Except.bind]
      cases ended : next value with
      | error error =>
          rw [ended] at later
          obtain ⟨_, found⟩ := later
          refine .failed error ?_
          rw [List.findSome?_append, passedBefore, found]
          rfl
      | ok last =>
          rw [ended] at later
          obtain _ | ⟨_, passedAfter, met⟩ := later
          refine .passed last ?_ met
          rw [List.findSome?_append, passedBefore, passedAfter]
          rfl

/-- What is known of the value when every stage passes may be weakened. -/
theorem Staged.imp {α : Type} {stages : List Stage} {expected wanted : α → Prop}
    {result : Except RunError α} (staged : Staged world configuration stages expected result)
    (weaker : ∀ value, expected value → wanted value) :
    Staged world configuration stages wanted result := by
  cases staged with
  | failed error first => exact .failed error first
  | passed value none met => exact .passed value none (weaker value met)

/-- A single stage passes on what it results in. -/
theorem staged_single {ε α : Type} {stage : Stage} {result : Except ε α} (change : ε → RunError)
    (same : stage.error? world configuration = (errorOf result).map change) :
    Staged world configuration [stage] (fun value => result = .ok value)
      (result.mapError change) := by
  cases result with
  | error error => exact .failed (change error) (by simp [same])
  | ok value => exact .passed value (by simp [same]) rfl

/-- A stage that looks for an error passes on a value when it finds none. -/
theorem staged_resultOf {ε α : Type} {stage : Stage} {error? : Option ε} {value : α}
    (change : ε → RunError) (same : stage.error? world configuration = error?.map change) :
    Staged world configuration [stage] (fun found => found = value)
      ((resultOf error? value).mapError change) := by
  cases error? with
  | some error => exact .failed (change error) (by simp [same])
  | none => exact .passed value (by simp [same]) rfl

/-- Loading the registry is the first stage. -/
theorem staged_directories :
    Staged world configuration [.directories]
      (fun registry => registry = configuration.registry world)
      ((Registry.load world.tree configuration.directories).mapError RunError.registry).result := by
  rw [Outcome.result_mapError, Registry.load, loadDirectories_result]
  exact staged_resultOf RunError.registry rfl

/-- The table is selected from the registry the directories gave. -/
theorem staged_table :
    Staged world configuration [.directories, .selection]
      (fun table => configuration.table world = .ok table)
      (loadTable world.tree configuration).result := by
  simp only [loadTable, Outcome.result_bind, Outcome.result_ofExcept]
  refine staged_directories.bind fun registry isRegistry => ?_
  rw [isRegistry]
  exact staged_single RunError.registry rfl

/-- The headers are checked before anything is fetched. -/
theorem staged_headers :
    Staged world configuration [.headers] (fun accepted => accepted = ())
      ((checkHeaders configuration.headers).mapError fun error => .schema (.badHeader error)) := by
  rw [checkHeaders_eq]
  exact staged_resultOf (fun error => RunError.schema (.badHeader error)) rfl

/-- Behind the headers, the text of the schema is fetched and converted. -/
theorem staged_source :
    Staged world configuration [.headers, .fetch, .conversion]
      (fun source => configuration.source? world = some (.ok source))
      ((loadSource world.tree world.network configuration.headers
        configuration.schema).result.mapError RunError.schema) := by
  rw [loadSource_result, mapError_bind, mapError_mapError]
  refine staged_headers.bind fun _ _ => ?_
  cases detected : Pointer.detect configuration.schema with
  | none =>
      refine .failed (.schema (.unsupported configuration.schema)) ?_
      simp [Stage.error?, Configuration.fetchError?, detected]
  | some pointer =>
      rw [mapError_bind]
      have fetching : Stage.fetch.error? world configuration =
          (errorOf (fetched world.tree world.network configuration.headers pointer)).map
            .schema := by
        simp only [Stage.error?, Configuration.fetchError?, detected]
      refine (staged_single RunError.schema fetching).bind fun content isContent => ?_
      have source : configuration.source? world = some (converted pointer content) := by
        simp [Configuration.source?, detected, isContent, Except.toOption]
      have converting : Stage.conversion.error? world configuration =
          (errorOf (converted pointer content)).map .schema := by
        simp [Stage.error?, source]
      rw [source]
      simp only [Option.some.injEq]
      exact staged_single RunError.schema converting

/-- Behind the text of the schema, the schema built from it is validated. -/
theorem staged_schema :
    Staged world configuration [.headers, .fetch, .conversion, .validation]
      (fun schema => configuration.schema? world = some (.ok schema))
      ((loadSchema world.tree world.network configuration.headers
        configuration.schema).result.mapError RunError.schema) := by
  simp only [loadSchema, Loaded.andThen, mapError_bind, mapError_mapError]
  refine staged_source.bind fun source isSource => ?_
  have read : configuration.schema? world = some (Schema.read configuration.schema source) := by
    simp [Configuration.schema?, isSource, Except.toOption]
  have reading : Stage.validation.error? world configuration =
      (errorOf (Schema.read configuration.schema source)).map fun invalid =>
        .schema (.invalid invalid) := by
    simp [Stage.error?, read]
  rw [read]
  simp only [Option.some.injEq]
  exact staged_single (fun invalid => RunError.schema (.invalid invalid)) reading

/-- Finding the documents comes before reading them. -/
theorem staged_documents :
    Staged world configuration [.discovery, .reading]
      (fun documents => ∃ files, configuration.files world = .ok files ∧
        documents = files.flatMap fun path =>
          fileDocuments world.tree path ((finderFor configuration.schema).location path))
      (((finderFor configuration.schema).load world.tree configuration.operation).mapError
        RunError.documents).result := by
  rw [Outcome.result_mapError, load_result, mapError_bind]
  refine (staged_single RunError.documents rfl).bind fun files found => ?_
  have isFiles : configuration.files world = .ok files := found
  have reading : Stage.reading.error? world configuration =
      (files.findSome? (fileError? world.tree)).map .documents := by
    simp [Stage.error?, isFiles, Except.toOption]
  rw [loadFiles_result]
  exact (staged_resultOf RunError.documents reading).imp fun documents isDocuments =>
    ⟨files, isFiles, isDocuments⟩

/-- The materials of a run are loaded by all its stages in their order. -/
theorem staged_materials :
    Staged world configuration Stage.order (Materials.BelongTo world configuration)
      (loadMaterials world configuration).result := by
  simp only [loadMaterials, Outcome.result_bind, Outcome.result_pure, Outcome.result_ofExcept]
  refine staged_table.bind fun table isTable => ?_
  refine staged_schema.bind fun schema isSchema => ?_
  have complete : ∀ documents, (∃ files, configuration.files world = .ok files ∧
      documents = files.flatMap fun path =>
        fileDocuments world.tree path ((finderFor configuration.schema).location path)) →
      Staged world configuration [] (Materials.BelongTo world configuration)
        (.ok ⟨table, schema, documents⟩) := by
    intro documents isDocuments
    exact .passed _ rfl ⟨isTable, isSchema, isDocuments⟩
  exact staged_documents.bind complete

/-- Materials that were loaded belong to their run, and no stage of it failed. -/
theorem belongTo_of_loaded {materials : Materials}
    (loaded : (loadMaterials world configuration).result = .ok materials) :
    firstError? world configuration = none ∧ materials.BelongTo world configuration := by
  have staged := @staged_materials world configuration
  rw [loaded] at staged
  obtain _ | ⟨_, allPassed, belong⟩ := staged
  exact ⟨allPassed, belong⟩

/-- A failure to load is that of the first stage that failed. -/
theorem firstError_of_failed {error : RunError}
    (failed : (loadMaterials world configuration).result = .error error) :
    firstError? world configuration = some error := by
  have staged := @staged_materials world configuration
  rw [failed] at staged
  obtain ⟨_, isFirst⟩ := staged
  exact isFirst

/-- The materials are loaded when no stage fails. -/
theorem exists_loaded_of_passed (passed : firstError? world configuration = none) :
    ∃ materials, (loadMaterials world configuration).result = .ok materials := by
  cases ended : (loadMaterials world configuration).result with
  | error error => cases (firstError_of_failed ended).symm.trans passed
  | ok materials => exact ⟨materials, rfl⟩

/-- What a run writes when it has loaded its materials. -/
def Materials.text (materials : Materials) (presentation : Presentation) (pointer : String) :
    List Char :=
  reportText materials.validator (materials.formatter presentation) pointer materials.documents

/-- With room for its report a run succeeds with the counts of the documents, whatever it was to
print. -/
theorem run_of_room {materials : Materials} (presentation : Presentation) (writer : Writer)
    (loaded : (loadMaterials world configuration).result = .ok materials)
    (room : writer.fits (materials.text presentation configuration.operation) = true) :
    (run world configuration presentation writer).result =
        .ok (reportSummary materials.validator materials.documents) ∧
      (run world configuration presentation writer).writer =
        writer.write (materials.text presentation configuration.operation) := by
  have complete := report_of_room materials.validator (materials.formatter presentation)
    configuration.operation writer materials.documents room
  simp only [run, loaded, Materials.report, complete, Materials.text, and_self]

/-- How a run with some earlier warnings ends with a report. A report that has no room is a
failure. -/
def Ended.ofReport (earlier : List Warning) : Step → Ended
  | .ok progress => ⟨.ok progress.summary, progress.writer, earlier ++ progress.warnings⟩
  | .error progress => ⟨.error .fullWriter, progress.writer, earlier ++ progress.warnings⟩

/-- A run that has loaded its materials ends with the report on their documents. -/
theorem run_of_loaded {materials : Materials} (presentation : Presentation) (writer : Writer)
    (loaded : (loadMaterials world configuration).result = .ok materials) :
    run world configuration presentation writer =
      .ofReport (loadMaterials world configuration).warnings
        (Report.report materials.validator
          ⟨materials.table, presentation.links, presentation.color, presentation.terminalColors⟩
          configuration.operation writer materials.documents) := by
  simp only [run, loaded, Materials.report, Materials.formatter]
  cases Report.report materials.validator
    ⟨materials.table, presentation.links, presentation.color, presentation.terminalColors⟩
    configuration.operation writer materials.documents <;> rfl

/-- A run whose materials fail to load fails with that error. -/
theorem run_of_error {error : RunError} (presentation : Presentation) (writer : Writer)
    (failed : (loadMaterials world configuration).result = .error error) :
    (run world configuration presentation writer).result = .error error := by
  simp only [run, failed]

/-- The configuration that arguments ask for. -/
def configurationOf? (environment : Environment) (arguments : List String) :
    Option Configuration :=
  match Arguments.read arguments with
  | .error _ => none
  | .ok read => (Configuration.make environment read).toOption

/-- An invocation whose arguments are a configuration is the run of that configuration. -/
theorem invoke_eq_exitOfRun {environment : Environment} {arguments : List String}
    (configured : configurationOf? environment arguments = some configuration) :
    invoke world environment arguments = exitOfRun world environment configuration := by
  cases isRead : Arguments.read arguments with
  | error refusal => simp [configurationOf?, isRead] at configured
  | ok parsed =>
      cases made : Configuration.make environment parsed with
      | error error => simp [configurationOf?, isRead, made, Except.toOption] at configured
      | ok value =>
          simp only [configurationOf?, isRead, made, Except.toOption,
            Option.some.injEq] at configured
          simp only [invoke, isRead, made, configured]

/-- A failure to load is told by the code, and nothing is written. -/
theorem exitOfRun_of_error {error : RunError} (environment : Environment)
    (failed : (loadMaterials world configuration).result = .error error) :
    (exitOfRun world environment configuration).code = 1 ∧
      (exitOfRun world environment configuration).written = [] := by
  unfold exitOfRun
  simp only [run_of_error _ _ failed, run_failure_writer _ _ _ _ _ failed]
  exact ⟨rfl, rfl⟩

/-- Problems of the documents do not matter for the code. -/
theorem exitOfRun_of_loaded {materials : Materials} (environment : Environment)
    (loaded : (loadMaterials world configuration).result = .ok materials) :
    (exitOfRun world environment configuration).code = 0 := by
  unfold exitOfRun
  simp only [(run_of_room _ Writer.unlimited loaded rfl).1]

end

/-- A run ends with the error of its first stage that fails, and then nothing is written. When no
stage fails, the run has a summary, whatever problems the documents have, provided that the writer
has room for the report. The program exits with one in the first case, and with zero in the
other. -/
theorem run_ends_with_first_error (world : World) (configuration : Configuration)
    (presentation : Presentation) (writer : Writer) :
    (∀ error, firstError? world configuration = some error →
      (run world configuration presentation writer).result = .error error ∧
      (run world configuration presentation writer).writer = writer ∧
      ∀ environment arguments, configurationOf? environment arguments = some configuration →
        (invoke world environment arguments).code = 1 ∧
        (invoke world environment arguments).written = []) ∧
    (firstError? world configuration = none →
      ∃ materials : Materials, materials.BelongTo world configuration ∧
        (writer.fits (materials.text presentation configuration.operation) = true →
          (run world configuration presentation writer).result =
            .ok (reportSummary materials.validator materials.documents) ∧
          (run world configuration presentation writer).writer =
            writer.write (materials.text presentation configuration.operation)) ∧
        ∀ environment arguments, configurationOf? environment arguments = some configuration →
          (invoke world environment arguments).code = 0) := by
  cases ended : (loadMaterials world configuration).result with
  | error last =>
      have isFirst := firstError_of_failed ended
      refine ⟨fun error found => ?_, fun none => ?_⟩
      · obtain rfl : last = error := Option.some.inj (isFirst.symm.trans found)
        refine ⟨run_of_error presentation writer ended,
          run_failure_writer world configuration presentation writer last ended, ?_⟩
        intro environment arguments configured
        rw [invoke_eq_exitOfRun configured]
        exact exitOfRun_of_error environment ended
      · exact absurd (isFirst.symm.trans none) (Option.some_ne_none last)
  | ok materials =>
      obtain ⟨allPassed, belong⟩ := belongTo_of_loaded ended
      refine ⟨fun error found => ?_, fun _ => ⟨materials, belong, ?_, ?_⟩⟩
      · exact absurd (found.symm.trans allPassed) (Option.some_ne_none error)
      · exact run_of_room presentation writer ended
      · intro environment arguments configured
        rw [invoke_eq_exitOfRun configured]
        exact exitOfRun_of_loaded environment ended

/-- No stage fails when each of them has what it needs. -/
theorem firstError_eq_none {world : World} {configuration : Configuration} {source : String}
    {files : List String}
    (directories : Stage.directories.error? world configuration = none)
    (selection : Stage.selection.error? world configuration = none)
    (headers : Stage.headers.error? world configuration = none)
    (fetch : configuration.fetchError? world = none)
    (isSource : configuration.source? world = some (.ok source))
    (valid : errorOf (Schema.read configuration.schema source) = none)
    (isFiles : configuration.files world = .ok files)
    (readable : files.findSome? (fileError? world.tree) = none) :
    firstError? world configuration = none := by
  have isSchema : configuration.schema? world = some (Schema.read configuration.schema source) := by
    rw [Configuration.schema?, isSource]
    rfl
  simp only [firstError?, Stage.order, List.findSome?_cons, directories, selection, headers]
  simp only [Stage.error?, fetch, isSource, isSchema, isFiles, Option.bind_some, errorOf_ok, valid,
    Except.toOption, readable, Option.map_none, List.findSome?_nil]

/-- The files of a sample hold a table and a document, and a schema if it is not left out. -/
def sampleTree (hasSchema : Bool) : Tree where
  entries := [(["t.toml"], .file "table=[\"t\",\"d\"]".toUTF8),
      (["q.gql"], .file "\x7bb\x7d".toUTF8)] ++
    if hasSchema then [(["s.graphql"], .file "type Query\x7ba:Int\x7d".toUTF8)] else []
  home := []
  closed := []

def sampleWorld (hasSchema : Bool) : World := ⟨sampleTree hasSchema, Network.unreachable⟩

def sampleArguments : List String := ["-s", "s.graphql", "--rules", "t.toml", "-o", "q.gql"]

def sampleConfiguration : Configuration where
  schema := "s.graphql"
  operation := "q.gql"
  headers := []
  rules := "t.toml"
  directories := [⟨".validate-operations/rules", .workspace⟩]
  links := .auto
  color := .auto
  logLevel := "warn"

theorem configurationOf_sample :
    configurationOf? ⟨[], false⟩ sampleArguments = some sampleConfiguration := by
  have read : Arguments.read sampleArguments =
      .ok ⟨"s.graphql", "q.gql", [], "t.toml", none, .auto, .auto, "warn"⟩ := by cbv
  have isPath : workspaceTables = ".validate-operations/rules" := by decide +kernel
  simp only [configurationOf?, read, Configuration.make, Environment.directories, isPath]
  rfl

/-- The directory of the workspace is sought from the home of a tree. -/
theorem locate_workspace (tree : Tree) : tree.locate ".validate-operations/rules" =
    tree.follow linkLimit tree.home [".validate-operations", "rules"] := by
  have relative : isAbsolute ".validate-operations/rules" = false := by decide +kernel
  have split : pieces ".validate-operations/rules" = [".validate-operations", "rules"] := by cbv
  have plain : ".validate-operations/rules".contains '\x00' = false := by cbv
  rw [Tree.locate, split, relative, plain]
  rfl

theorem locate_sample (hasSchema : Bool) :
    (sampleTree hasSchema).locate ".validate-operations/rules" = .error .notFound := by
  rw [locate_workspace]
  cases hasSchema <;> rfl

/-- The directory of the workspace is missing, and the table is chosen by its file. -/
theorem sample_table (hasSchema : Bool) :
    Stage.directories.error? (sampleWorld hasSchema) sampleConfiguration = none ∧
      Stage.selection.error? (sampleWorld hasSchema) sampleConfiguration = none := by
  have present : (sampleTree hasSchema).isFile "t.toml" = true := by cases hasSchema <;> cbv
  have isTable : ∃ table, readTable (sampleTree hasSchema) "t.toml" = .ok table := by
    cases hasSchema <;> exact ⟨_, by cbv⟩
  obtain ⟨table, read⟩ := isTable
  constructor
  · simp [Stage.error?, sampleWorld, sampleConfiguration, Directory.error?, locate_sample]
  · simp [Stage.error?, Configuration.table, Registry.select, sampleWorld, sampleConfiguration,
      present, read]

/-- Without its file, the schema cannot be fetched. -/
theorem sample_fails : firstError? (sampleWorld false) sampleConfiguration =
    some (.schema (.unreadable "s.graphql" .notFound)) := by
  obtain ⟨directories, selection⟩ := sample_table false
  have headers : Stage.headers.error? (sampleWorld false) sampleConfiguration = none := rfl
  have fetch : sampleConfiguration.fetchError? (sampleWorld false) =
      some (.unreadable "s.graphql" .notFound) := by cbv
  have isFetch : Stage.fetch.error? (sampleWorld false) sampleConfiguration =
      some (.schema (.unreadable "s.graphql" .notFound)) := by rw [Stage.error?, fetch]; rfl
  simp only [firstError?, Stage.order, List.findSome?_cons, directories, selection, headers,
    isFetch]

theorem sample_source : sampleConfiguration.source? (sampleWorld true) =
    some (.ok "type Query\x7ba:Int\x7d") := by cbv

theorem sample_files : sampleConfiguration.files (sampleWorld true) = .ok ["./q.gql"] := by cbv

theorem sample_passes : firstError? (sampleWorld true) sampleConfiguration = none := by
  obtain ⟨directories, selection⟩ := sample_table true
  have fetch : sampleConfiguration.fetchError? (sampleWorld true) = none := by cbv
  have valid : errorOf (Schema.read sampleConfiguration.schema "type Query\x7ba:Int\x7d") =
      none := by
    decide +kernel
  have readable : fileError? (sampleWorld true).tree "./q.gql" = none := by cbv
  refine firstError_eq_none directories selection rfl fetch sample_source valid sample_files ?_
  rw [List.findSome?_cons, readable, List.findSome?_nil]

/-- A schema that is missing fails the program, and a problem of a document does not. -/
theorem run_ends_with_first_error_sample :
    ((invoke (sampleWorld false) ⟨[], false⟩ sampleArguments).code = 1 ∧
      (invoke (sampleWorld false) ⟨[], false⟩ sampleArguments).written = []) ∧
    (invoke (sampleWorld true) ⟨[], false⟩ sampleArguments).code = 0 := by
  have general (hasSchema : Bool) := run_ends_with_first_error (sampleWorld hasSchema)
    sampleConfiguration ⟨.plain, false, false⟩ Writer.unlimited
  constructor
  · obtain ⟨_, _, exits⟩ := (general false).1 _ sample_fails
    exact exits _ _ configurationOf_sample
  · obtain ⟨_, _, _, exits⟩ := (general true).2 sample_passes
    exact exits _ _ configurationOf_sample

end OperationCheck
