import OperationCheck.Documents.Loading

/-!
What reading the files of documents gives. The main statement says that the files are read
completely and in order, unless one of them cannot be read.
-/

namespace OperationCheck.Documents

open OperationCheck.Files

/-- A file of documents must hold a text. Other files are not read. -/
def fileError? (tree : Tree) (path : String) : Option DocumentError :=
  match Kind.ofPath? path with
  | none => none
  | some _ => (errorOf (tree.readText path)).map (.unreadable path)

/-- The sources in a text depend on the kind of its file. -/
def sourcesOf (content : String) : Kind → List String
  | .graphQl => if Text.isBlankText content.toList then [] else [content]
  | .code => codeSources content

/-- A file that is not read has no documents. -/
def fileDocuments (tree : Tree) (path location : String) : List Document :=
  match Kind.ofPath? path, tree.readText path with
  | some kind, .ok content => (sourcesOf content kind).map fun source => ⟨location, source⟩
  | _, _ => []

/-- A GraphQL file is one source, its whole content. -/
theorem graphQlSources_result (path content : String) :
    (graphQlSources path content).result = .ok (sourcesOf content .graphQl) := by
  by_cases blank : Text.isBlankText content.toList = true
  · simp [graphQlSources, sourcesOf, blank, Except.bind]
  · simp [graphQlSources, sourcesOf, blank]

/-- A file gives its documents unless it cannot be read. -/
theorem loadFile_result (tree : Tree) (path location : String) :
    (loadFile tree path location).result =
      resultOf (fileError? tree path) (fileDocuments tree path location) := by
  cases isKind : Kind.ofPath? path with
  | none => simp [loadFile, fileError?, fileDocuments, isKind]
  | some kind =>
      cases found : tree.readText path with
      | error fault => simp [loadFile, fileError?, fileDocuments, isKind, found]
      | ok content =>
          cases kind with
          | graphQl =>
              simp [loadFile, fileError?, fileDocuments, isKind, found, graphQlSources_result,
                Except.bind]
          | code =>
              simp [loadFile, fileError?, fileDocuments, isKind, found, sourcesOf, Except.bind]

/-- The first file that cannot be read fails the whole. Otherwise no document is left out. -/
theorem loadFiles_result (finder : Finder) (tree : Tree) (files : List String) :
    (finder.loadFiles tree files).result =
      resultOf (files.findSome? (fileError? tree))
        (files.flatMap fun path => fileDocuments tree path (finder.location path)) := by
  induction files with
  | nil => rfl
  | cons path rest ih =>
      simp only [Finder.loadFiles, Outcome.result_bind, Outcome.result_pure, loadFile_result, ih,
        List.findSome?_cons, List.flatMap_cons]
      cases fileError? tree path with
      | some error => rfl
      | none =>
          cases rest.findSome? (fileError? tree) with
          | some error => rfl
          | none => rfl

/-- Loading a pointer finds its files and reads them. -/
theorem load_result (finder : Finder) (tree : Tree) (pointer : String) :
    (finder.load tree pointer).result =
      (finder.discover tree pointer).bind fun files => (finder.loadFiles tree files).result := by
  simp only [Finder.load, Outcome.result_bind, Outcome.result_ofExcept]
  cases finder.discover tree pointer with
  | error error => rfl
  | ok files =>
      simp only [Except.bind]
      cases (finder.loadFiles tree files).result with
      | error error => rfl
      | ok documents =>
          by_cases empty : documents.isEmpty = true
          · simp only [empty, ↓reduceIte]
            rfl
          · simp [empty]

end OperationCheck.Documents
