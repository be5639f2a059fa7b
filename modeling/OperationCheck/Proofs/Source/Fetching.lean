import OperationCheck.Outcome
import OperationCheck.Source.Loading

/-!
The steps of loading the source of a schema. The main statement says that headers are checked first,
that what a pointer leads to is fetched next, and that only then it is converted.
-/

namespace OperationCheck.Source

open OperationCheck.Files OperationCheck.Http OperationCheck.Introspection

/-- The name of a header is looked at before its value. -/
def headerError? (header : Header) : Option HeaderError :=
  if !isHeaderName header.name then some (.invalidName header.name)
  else if !isHeaderValue header.value then some (.invalidValue header.name)
  else none

/-- The check gives the first error of the headers, if any. -/
theorem checkHeaders_eq (headers : List Header) :
    checkHeaders headers = resultOf (headers.findSome? headerError?) () := by
  induction headers with
  | nil => rfl
  | cons header rest ih =>
      by_cases named : isHeaderName header.name = true
      · by_cases valued : isHeaderValue header.value = true
        · simp [checkHeaders, headerError?, named, valued, ih]
        · simp [checkHeaders, headerError?, named, valued]
      · simp [checkHeaders, headerError?, named]

/-- A server answers with bytes, and all the others give a text. -/
def Pointer.Content : Pointer → Type
  | .endpoint _ => ByteArray
  | .remoteGraphQl _ | .remoteJson _ | .graphQlFile _ | .jsonFile _ => String

/-- What a pointer leads to, as it is. -/
def fetched (tree : Tree) (network : Network) (headers : List Header) :
    (pointer : Pointer) → Except LoadError pointer.Content
  | .endpoint url => (queryAnswer network headers url).result
  | .remoteGraphQl url | .remoteJson url => (fetchText network headers url).result
  | .graphQlFile path | .jsonFile path => readFile tree path

/-- The source of a schema in what was fetched. -/
def converted : (pointer : Pointer) → pointer.Content → Except LoadError String
  | .endpoint url, answer =>
      match String.fromUTF8? answer with
      | some text => sourceOfText (.malformedReply url) text
      | none => .error (.malformedReply url)
  | .remoteGraphQl _, text | .graphQlFile _, text => .ok text
  | .remoteJson url, text => sourceOfText (.malformedRemoteFile url) text
  | .jsonFile path, text => sourceOfText (.malformedFile path) text

/-- Loading is fetching and then converting. -/
theorem loadPointer_result (tree : Tree) (network : Network) (headers : List Header)
    (pointer : Pointer) :
    (loadPointer tree network headers pointer).result =
      (fetched tree network headers pointer).bind (converted pointer) := by
  cases pointer with
  | endpoint url => rfl
  | remoteGraphQl url =>
      simp only [loadPointer, fetched]
      cases (fetchText network headers url).result <;> rfl
  | remoteJson url => rfl
  | graphQlFile path =>
      simp only [loadPointer, fetched, Loaded.local]
      cases readFile tree path <;> rfl
  | jsonFile path => rfl

/-- Headers are checked before a schema is fetched. -/
theorem loadSource_result (tree : Tree) (network : Network) (headers : List Header)
    (pointer : String) :
    (loadSource tree network headers pointer).result =
      ((checkHeaders headers).mapError LoadError.badHeader).bind fun _ =>
        match Pointer.detect pointer with
        | none => .error (.unsupported pointer)
        | some detected =>
            (fetched tree network headers detected).bind (converted detected) := by
  simp only [loadSource]
  cases checkHeaders headers with
  | error error => rfl
  | ok accepted =>
      cases Pointer.detect pointer with
      | none => rfl
      | some detected => exact loadPointer_result tree network headers detected

end OperationCheck.Source
