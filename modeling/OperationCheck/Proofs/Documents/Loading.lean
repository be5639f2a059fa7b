import Mathlib
import OperationCheck.Proofs.Documents.Discovery
import OperationCheck.Proofs.Documents.Reading
import OperationCheck.Proofs.Files.Following
import OperationCheck.Proofs.Files.Resemblance

/-!
Loading the documents of a pointer. The main statement says that a pointer has the documents of its
files, one file after the other, and that each of these files has the same documents when its own
path is the pointer.
-/

namespace OperationCheck.Documents

open OperationCheck.Files

/-- A file that holds documents must be a text. Other files are not read. -/
def IsReadable (tree : Tree) (path : String) : Prop :=
  ∀ kind, Kind.ofPath? path = some kind → ∃ content, tree.readText path = .ok content

/-- A file gives no error just where it can be read or is of no kind that is read. -/
theorem fileError_eq_none_iff (tree : Tree) (path : String) :
    fileError? tree path = none ↔ IsReadable tree path := by
  unfold fileError? IsReadable
  cases Kind.ofPath? path with
  | none => simp
  | some kind => cases tree.readText path <;> simp

/-- These are the documents of a file. A file of operations is a document when it is not blank, and
source code has a document for each of its templates that is not blank. -/
inductive HasDocuments (tree : Tree) (path location : String) : List Document → Prop where
  | other : Kind.ofPath? path = none → HasDocuments tree path location []
  | blank {content : String} : Kind.ofPath? path = some .graphQl →
      tree.readText path = .ok content → Text.isBlankText content.toList = true →
      HasDocuments tree path location []
  | text {content : String} : Kind.ofPath? path = some .graphQl →
      tree.readText path = .ok content → Text.isBlankText content.toList = false →
      HasDocuments tree path location [⟨location, content⟩]
  | code {content : String} : Kind.ofPath? path = some .code → tree.readText path = .ok content →
      HasDocuments tree path location
        (((Template.blocks content.toList).filter fun block => !Text.isBlankText block.text).map
          fun block => ⟨location, String.ofList block.positioned⟩)

/-- A readable file has the documents loading makes of it. -/
theorem hasDocuments_fileDocuments {tree : Tree} {path : String} (readable : IsReadable tree path)
    (location : String) :
    HasDocuments tree path location (fileDocuments tree path location) := by
  unfold fileDocuments
  cases isKind : Kind.ofPath? path with
  | none => exact .other isKind
  | some kind =>
      obtain ⟨content, isContent⟩ := readable kind isKind
      rw [isContent]
      cases kind with
      | graphQl =>
          cases blank : Text.isBlankText content.toList with
          | true =>
              simp only [sourcesOf, blank, if_true, List.map_nil]
              exact .blank isKind isContent blank
          | false =>
              simp only [sourcesOf, blank, Bool.false_eq_true, if_false, List.map_cons,
                List.map_nil]
              exact .text isKind isContent blank
      | code =>
          simp only [sourcesOf, codeSources, Template.operations, List.map_map]
          exact .code isKind isContent

section current

variable {tree : Tree} {path : String}

/-- The current directory in front of a path does not change whether it is excluded. -/
theorem excludes_current (finder : Finder) (isFile : tree.isFile path = true) :
    finder.excludes tree (join "." path) = finder.excludes tree path := by
  obtain ⟨place, isPlace⟩ := exists_place_of_isFile isFile
  have current := (canonical_current (ne_empty_of_isFile isFile)).trans isPlace
  rw [Finder.excludes, Finder.excludes, Tree.identity_of_canonical isPlace,
    Tree.identity_of_canonical current]

/-- The current directory in front of a path does not change its kind. -/
theorem ofPath_current (path : String) : Kind.ofPath? (join "." path) = Kind.ofPath? path := by
  rw [Kind.ofPath?, fileKind?, extension?, fileName_current]
  rfl

/-- A path that begins with the current directory is shown without it. -/
theorem withoutCurrent_of_current {rest : List String} (isPieces : pieces path = "." :: rest) :
    withoutCurrent path =
      "/".intercalate (rest.dropWhile fun piece => piece = "" ∨ piece = ".") := by
  unfold withoutCurrent
  split
  · next others isOthers =>
      rw [isPieces] at isOthers
      rw [(List.cons.inj isOthers).2]
  · next notCurrent => exact absurd isPieces (notCurrent rest)

/-- A path that does not begin with the current directory is shown as it is. -/
theorem withoutCurrent_of_other {first : String} {rest : List String}
    (isPieces : pieces path = first :: rest) (other : first ≠ ".") :
    withoutCurrent path = path := by
  unfold withoutCurrent
  split
  · next isCurrent =>
      rw [isPieces] at isCurrent
      exact absurd (List.cons.inj isCurrent).1 other
  · rfl

/-- A file is shown in the same way when the current directory is named once more. -/
theorem withoutCurrent_current (isRelative : isAbsolute path = false) (nonempty : path ≠ "") :
    withoutCurrent ("." ++ "/" ++ path) = withoutCurrent path := by
  rw [withoutCurrent_of_current (pieces_current path)]
  cases isPieces : pieces path with
  | nil => exact absurd isPieces (pieces_ne_nil path)
  | cons first rest =>
      by_cases isCurrent : first = "."
      · subst isCurrent
        rw [withoutCurrent_of_current isPieces, List.dropWhile_cons_of_pos (by simp)]
      · have named := first_piece_ne_empty isPieces isRelative nonempty
        rw [withoutCurrent_of_other isPieces isCurrent,
          List.dropWhile_cons_of_neg (by simp [named, isCurrent]), ← isPieces, intercalate_pieces]

/-- The current directory in front of a path does not show in a location. -/
theorem location_current (excluded : List String) (nonempty : path ≠ "") :
    Finder.location ⟨".", excluded⟩ (join "." path) = Finder.location ⟨".", excluded⟩ path := by
  have isCurrent : components "." = [.current] := by decide +kernel
  cases isRoot : isAbsolute path with
  | true => rw [join_of_absolute isRoot]
  | false =>
      rw [join_current isRoot, Finder.location, Finder.location, if_pos isCurrent,
        if_pos isCurrent, withoutCurrent_current isRoot nonempty]

/-- The current directory in front of a path does not change whether it can be read. -/
theorem isReadable_current (nonempty : path ≠ "") :
    IsReadable tree (join "." path) ↔ IsReadable tree path := by
  rw [IsReadable, ofPath_current, readText_current nonempty]
  rfl

/-- The current directory in front of the path of a file does not change its documents. -/
theorem fileDocuments_current (excluded : List String) (nonempty : path ≠ "") :
    fileDocuments tree (join "." path) (Finder.location ⟨".", excluded⟩ (join "." path)) =
      fileDocuments tree path (Finder.location ⟨".", excluded⟩ path) := by
  rw [fileDocuments, ofPath_current, readText_current nonempty, location_current excluded nonempty]
  rfl

end current

section discovered

variable {tree : Tree} {pointer : String} {files : List String}

/-- Whatever a pointer finds is a file at its own path. -/
theorem isFile_of_found (navigable : tree.IsNavigable) {finder : Finder} {file : String}
    (found : finder.found tree pointer = .ok files) (member : file ∈ files) :
    tree.isFile file = true := by
  rcases Finder.found_cases found with
    ⟨isFile, rfl⟩ | rfl | ⟨place, glob, isPlace, isBase, -, matched, areMatched, rfl⟩
  · rw [List.mem_singleton.1 member]
    exact isFile
  · cases member
  · rw [List.mem_mergeSort, List.mem_map] at member
    obtain ⟨relative, inMatched, rfl⟩ := member
    obtain ⟨inWalk, -, -⟩ := mem_of_matchBelow areMatched inMatched
    have isDirectory := content_of_isDirectory isPlace isBase
    obtain ⟨⟨bytes, isContent⟩, -⟩ := Tree.contents_of_walk inWalk
    have located := navigable.locate_of_walk (locate_of_canonical isPlace) isDirectory inWalk
    exact isFile_of_locate located isContent

/-- Files are discovered in the order of their paths. -/
theorem ordered_of_discover {finder : Finder}
    (discovered : finder.discover tree pointer = .ok files) :
    files.Pairwise fun earlier later => pathLe earlier later = true := by
  obtain ⟨all, found, rfl⟩ := exists_found_of_discover discovered
  apply List.Pairwise.filter
  rcases Finder.found_cases found with ⟨-, rfl⟩ | rfl | ⟨_, _, -, -, -, _, -, rfl⟩
  · exact List.pairwise_singleton _ _
  · exact List.Pairwise.nil
  · exact pairwise_mergeSort_pathLe _

variable {excluded : List String} {file : String}

/-- A file that was discovered is the only one that its own path names. -/
theorem discover_own (navigable : tree.IsNavigable)
    (discovered : Finder.discover ⟨".", excluded⟩ tree pointer = .ok files)
    (member : file ∈ files) :
    Finder.discover ⟨".", excluded⟩ tree file = .ok [join "." file] := by
  obtain ⟨all, found, rfl⟩ := exists_found_of_discover discovered
  obtain ⟨inAll, included⟩ := List.mem_filter.1 member
  have isFile := isFile_of_found navigable found inAll
  have nonempty := ne_empty_of_isFile isFile
  have direct : tree.isFile (join "." file) = true := by rw [isFile_current nonempty, isFile]
  have isFound : Finder.found ⟨".", excluded⟩ tree file = .ok [join "." file] := by
    rw [Finder.found, if_pos direct]
  have kept : (!Finder.excludes ⟨".", excluded⟩ tree (join "." file)) = true := by
    rw [excludes_current _ isFile, included]
  rw [Finder.discover, isFound, Except.map]
  simp only [List.filter_cons, kept, if_true, List.filter_nil]

/-- The path of a file that was discovered loads the documents of that file. -/
theorem load_own (navigable : tree.IsNavigable)
    (discovered : Finder.discover ⟨".", excluded⟩ tree pointer = .ok files)
    (member : file ∈ files) (readable : IsReadable tree file) :
    (Finder.load ⟨".", excluded⟩ tree file).result =
      .ok (fileDocuments tree file (Finder.location ⟨".", excluded⟩ file)) := by
  obtain ⟨all, found, rfl⟩ := exists_found_of_discover discovered
  have isFile := isFile_of_found navigable found (List.mem_filter.1 member).1
  have nonempty := ne_empty_of_isFile isFile
  have noError : fileError? tree (join "." file) = none :=
    (fileError_eq_none_iff _ _).2 ((isReadable_current nonempty).2 readable)
  rw [load_result, discover_own navigable discovered member, Except.bind, loadFiles_result]
  rw [List.findSome?_singleton, noError, resultOf_none, List.flatMap_singleton,
    fileDocuments_current excluded nonempty]

end discovered

/-- What a pointer loads is told by the files that it discovers, one by one. -/
structure LoadsByFile (finder : Finder) (tree : Tree) (pointer : String) : Prop where
  /-- Loading succeeds when files are discovered, and those that hold documents are texts. -/
  succeeds : (∃ documents, (finder.load tree pointer).result = .ok documents) ↔
    ∃ files, finder.discover tree pointer = .ok files ∧ ∀ file ∈ files, IsReadable tree file
  /-- The documents are those of the files in the order of their paths. Each file has the documents
  that its own path loads. -/
  joins : ∀ documents, (finder.load tree pointer).result = .ok documents →
    ∃ files parts, finder.discover tree pointer = .ok files ∧
      files.Pairwise (fun earlier later => pathLe earlier later = true) ∧
      documents = parts.flatten ∧
      List.Forall₂ (fun file part => (finder.load tree file).result = .ok part ∧
        HasDocuments tree file (finder.location file) part) files parts
  /-- The first file that cannot be read fails the whole. -/
  fails : ∀ front file behind kind fault,
    finder.discover tree pointer = .ok (front ++ file :: behind) →
    (∀ earlier ∈ front, IsReadable tree earlier) →
    Kind.ofPath? file = some kind → tree.readText file = .error fault →
    (finder.load tree pointer).result = .error (.unreadable file fault)
  /-- There are no documents when the files cannot be discovered. -/
  undiscovered : ∀ error, finder.discover tree pointer = .error error →
    (finder.load tree pointer).result = .error error
  /-- The bytes of files do not bear on which files are discovered, unless they are ignore rules, and
  neither does the permission to open them. -/
  discovers : ∀ other, tree.Resembles other →
    finder.discover other pointer = finder.discover tree pointer
  /-- Among the files that are discovered, only the texts of those that hold documents count. -/
  depends : ∀ other, finder.discover other pointer = finder.discover tree pointer →
    (∀ files, finder.discover tree pointer = .ok files → ∀ file ∈ files,
      (Kind.ofPath? file).isSome = true → other.readText file = tree.readText file) →
    (finder.load other pointer).result = (finder.load tree pointer).result

/-- The same files are found in trees that are told apart only by the bytes of their files. -/
theorem discover_of_resembles {tree other : Tree} (resembles : tree.Resembles other)
    (finder : Finder) (pointer : String) :
    finder.discover other pointer = finder.discover tree pointer := by
  have excludes : finder.excludes other = finder.excludes tree := by
    funext path
    simp only [Finder.excludes, resembles.identity]
  have found : finder.found other pointer = finder.found tree pointer := by
    simp only [Finder.found, resembles.isFile, resembles.canonical, resembles.isDirectory]
    split
    · rfl
    · split
      · next place isPlace isBase =>
          rw [← resembles.canonical] at isPlace
          rw [← resembles.isDirectory] at isBase
          have isDirectory := content_of_isDirectory isPlace isBase
          simp only [matchBelow, resembles.boundedWalk isDirectory]
      · rfl
  rw [Finder.discover, Finder.discover, found, excludes]

/-- No file gives an error just where all can be read. -/
theorem findSome_fileError_eq_none_iff {tree : Tree} {files : List String} :
    files.findSome? (fileError? tree) = none ↔ ∀ file ∈ files, IsReadable tree file := by
  simp only [List.findSome?_eq_none_iff, fileError_eq_none_iff]

/-- Loading discovered files concatenates their documents, or gives the first error. -/
theorem load_of_discover {finder : Finder} {tree : Tree} {pointer : String} {files : List String}
    (discovered : finder.discover tree pointer = .ok files) :
    (finder.load tree pointer).result =
      resultOf (files.findSome? (fileError? tree))
        (files.flatMap fun path => fileDocuments tree path (finder.location path)) := by
  rw [load_result, discovered, Except.bind, loadFiles_result]

section load

variable {finder : Finder} {tree : Tree} {pointer : String}

/-- Loading succeeds just where the files are discovered and all can be read. -/
theorem load_succeeds_iff : (∃ documents, (finder.load tree pointer).result = .ok documents) ↔
    ∃ files, finder.discover tree pointer = .ok files ∧ ∀ file ∈ files, IsReadable tree file := by
  constructor
  · rintro ⟨documents, loaded⟩
    cases discovered : finder.discover tree pointer with
    | error error =>
        rw [load_result, discovered] at loaded
        cases loaded
    | ok files =>
        refine ⟨files, rfl, findSome_fileError_eq_none_iff.1 ?_⟩
        rw [load_of_discover discovered] at loaded
        cases unread : files.findSome? (fileError? tree) with
        | none => rfl
        | some error =>
            rw [unread] at loaded
            cases loaded
  · rintro ⟨files, discovered, readable⟩
    rw [load_of_discover discovered, findSome_fileError_eq_none_iff.2 readable]
    exact ⟨_, rfl⟩

/-- The first file that cannot be read is the one the failure names. -/
theorem load_fails {front behind : List String} {file : String} {kind : Kind} {fault : Fault}
    (discovered : finder.discover tree pointer = .ok (front ++ file :: behind))
    (readable : ∀ earlier ∈ front, IsReadable tree earlier) (isKind : Kind.ofPath? file = some kind)
    (unreadable : tree.readText file = .error fault) :
    (finder.load tree pointer).result = .error (.unreadable file fault) := by
  have isError : fileError? tree file = some (.unreadable file fault) := by
    rw [fileError?, isKind, unreadable]
    rfl
  rw [load_of_discover discovered, List.findSome?_append,
    findSome_fileError_eq_none_iff.2 readable, Option.none_or, List.findSome?_cons, isError]
  rfl

/-- Loading depends on the files found and on the text of those of a kind that is read. -/
theorem load_depends {other : Tree}
    (same : finder.discover other pointer = finder.discover tree pointer)
    (sameText : ∀ files, finder.discover tree pointer = .ok files → ∀ file ∈ files,
      (Kind.ofPath? file).isSome = true → other.readText file = tree.readText file) :
    (finder.load other pointer).result = (finder.load tree pointer).result := by
  cases discovered : finder.discover tree pointer with
  | error error =>
      rw [load_result, load_result, same, discovered]
      rfl
  | ok files =>
      have sameFile : ∀ file ∈ files, fileError? other file = fileError? tree file ∧
          ∀ location, fileDocuments other file location = fileDocuments tree file location := by
        intro file member
        unfold fileError? fileDocuments
        cases isKind : Kind.ofPath? file with
        | none => exact ⟨rfl, fun _ => rfl⟩
        | some kind =>
            rw [sameText files discovered file member (by rw [isKind]; rfl)]
            exact ⟨rfl, fun _ => rfl⟩
      have sameError : files.findSome? (fileError? other) = files.findSome? (fileError? tree) := by
        rw [← List.head?_filterMap, ← List.head?_filterMap,
          List.filterMap_congr fun file member => (sameFile file member).1]
      rw [load_of_discover discovered, load_of_discover (same.trans discovered), sameError,
        List.flatMap_congr fun file member => (sameFile file member).2 _]

end load

/-- What is loaded joins what each file loads by itself, in the order of the paths and with the same
locations. -/
theorem load_joins (excluded : List String) {tree : Tree} (navigable : tree.IsNavigable)
    {pointer : String} {documents : List Document}
    (loaded : (Finder.load ⟨".", excluded⟩ tree pointer).result = .ok documents) :
    ∃ files parts, Finder.discover ⟨".", excluded⟩ tree pointer = .ok files ∧
      files.Pairwise (fun earlier later => pathLe earlier later = true) ∧
      documents = parts.flatten ∧
      List.Forall₂ (fun file part => (Finder.load ⟨".", excluded⟩ tree file).result = .ok part ∧
        HasDocuments tree file (Finder.location ⟨".", excluded⟩ file) part) files parts := by
  obtain ⟨files, discovered, readable⟩ := load_succeeds_iff.1 ⟨documents, loaded⟩
  refine ⟨files, files.map fun file =>
    fileDocuments tree file (Finder.location ⟨".", excluded⟩ file), discovered,
    ordered_of_discover discovered, ?_, ?_⟩
  · rw [load_of_discover discovered, findSome_fileError_eq_none_iff.2 readable] at loaded
    rw [← Except.ok.inj loaded, List.flatMap_def]
  · rw [List.forall₂_map_right_iff, List.forall₂_same]
    intro file member
    exact ⟨load_own navigable discovered member (readable file member),
      hasDocuments_fileDocuments (readable file member) _⟩

/-- A pointer loads what its files have. -/
theorem load_by_file (excluded : List String) {tree : Tree} (navigable : tree.IsNavigable)
    (pointer : String) : LoadsByFile ⟨".", excluded⟩ tree pointer where
  succeeds := load_succeeds_iff
  joins _ loaded := load_joins excluded navigable loaded
  fails _ _ _ _ _ discovered readable isKind unreadable :=
    load_fails discovered readable isKind unreadable
  undiscovered error undiscovered := by
    rw [load_result, undiscovered]
    rfl
  discovers _ resembles := discover_of_resembles resembles _ pointer
  depends _ same sameText := load_depends same sameText

/-- A file of operations and source code stand beside a file that is no text and that is closed. -/
def mixedTree : Tree where
  entries := [(["a.gql"], .file "\x7b x \x7d".toUTF8), (["b.txt"], .file ⟨#[255]⟩),
    (["c.js"], .file "gql\x60\x7b y \x7d\x60".toUTF8)]
  home := []
  closed := [["b.txt"]]

theorem mixedTree_isNavigable : mixedTree.IsNavigable :=
  Tree.isNavigable_iff.2 ⟨Tree.isWellFormed_iff.2 (by decide +kernel), by decide +kernel⟩

/-- The closed file holds no documents, so it is never read. -/
theorem load_by_file_mixed :
    mixedTree.IsNavigable ∧
      Finder.discover ⟨".", []⟩ mixedTree "*" = .ok ["./a.gql", "./b.txt", "./c.js"] ∧
      (Finder.load ⟨".", []⟩ mixedTree "*").result =
        .ok [⟨"a.gql", "\x7b x \x7d"⟩, ⟨"c.js", "    \x7b y \x7d"⟩] ∧
      LoadsByFile ⟨".", []⟩ mixedTree "*" :=
  ⟨mixedTree_isNavigable, by cbv, by cbv, load_by_file [] mixedTree_isNavigable "*"⟩

end OperationCheck.Documents
