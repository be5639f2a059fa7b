import OperationCheck.Files.Tree
import OperationCheck.Http.Network
import OperationCheck.Introspection.Answer
import OperationCheck.Introspection.Query
import OperationCheck.Json.Reader
import OperationCheck.Source.Pointer
import OperationCheck.Text.Decoding
import OperationCheck.TypeSystem.Source

/-!
Loading a schema from where its pointer says it is. Servers and introspection files answer with a
description of the schema, which is turned into its source.
-/

namespace OperationCheck.Source

open OperationCheck.Files OperationCheck.Http OperationCheck.Introspection OperationCheck.TypeSystem

inductive LoadError where
  | badHeader (error : HeaderError)
  | unsupported (pointer : String)
  | unreadable (path : String) (fault : Fault)
  | malformedFile (path : String)
  | unreachableServer (url : String)
  | unreachableFile (url : String)
  | refusedQuery (url : String)
  | refusedFile (url : String)
  | brokenFile (url : String)
  | malformedReply (url : String)
  | malformedRemoteFile (url : String)
  | badAnswer (error : AnswerError)
  | invalid (schema : InvalidSchema)
deriving Repr, DecidableEq

def LoadError.message : LoadError → String
  | .badHeader error => error.message
  | .unsupported pointer => unsupportedMessage pointer
  | .unreadable path _ => "Failed to read schema file " ++ path
  | .malformedFile path => "Invalid JSON in " ++ path
  | .unreachableServer url => "Failed to reach GraphQL endpoint " ++ url
  | .unreachableFile url => "Failed to fetch " ++ url
  | .refusedQuery url => "Introspection request to " ++ url ++ " failed"
  | .refusedFile url => "Request to " ++ url ++ " failed"
  | .brokenFile url => "Failed to read response body from " ++ url
  | .malformedReply url | .malformedRemoteFile url => "Invalid JSON from " ++ url
  | .badAnswer error => error.message
  | .invalid schema => schema.message

/-- Something that was loaded comes with the requests that were sent for it. -/
structure Loaded (α : Type) where
  requests : List Request
  result : Except LoadError α

def Loaded.local {α : Type} (result : Except LoadError α) : Loaded α := ⟨[], result⟩

def Loaded.andThen {α β : Type} (loaded : Loaded α) (next : α → Except LoadError β) : Loaded β :=
  ⟨loaded.requests, loaded.result.bind next⟩

/-- The source of the schema that an answer describes. -/
def sourceOfAnswer (answer : Json.Value) : Except LoadError String :=
  ((DescribedSchema.ofAnswer answer).mapError LoadError.badAnswer).map DescribedSchema.source

/-- The text of an introspection file. -/
def sourceOfText (malformed : LoadError) (text : String) : Except LoadError String :=
  match Json.Value.parse text with
  | some answer => sourceOfAnswer answer
  | none => .error malformed

/-- A response counts unless it is a refusal, or it breaks off. -/
def contentOf (unreachable refused broken : LoadError) (fetch : Fetch) : Loaded ByteArray :=
  ⟨fetch.requests,
    match fetch.result with
    | .error _ => .error unreachable
    | .ok response =>
        if response.isRefusal then .error refused
        else
          match response.content? with
          | some bytes => .ok bytes
          | none => .error broken⟩

/-- Damaged characters of a remote file are replaced. -/
def fetchText (network : Network) (headers : List Header) (url : String) : Loaded String :=
  (contentOf (.unreachableFile url) (.refusedFile url) (.brokenFile url)
    (network.fetch .get url headers none)).andThen fun bytes => .ok (Text.decode bytes)

/-- The answer of a server to a query. An answer that breaks off is malformed. -/
def queryAnswer (network : Network) (headers : List Header) (url : String) : Loaded ByteArray :=
  contentOf (.unreachableServer url) (.refusedQuery url) (.malformedReply url)
    (network.fetch .post url headers (some requestBody))

/-- A server must answer without damaged characters. -/
def queryServer (network : Network) (headers : List Header) (url : String) : Loaded String :=
  (queryAnswer network headers url).andThen fun bytes =>
    match String.fromUTF8? bytes with
    | some text => sourceOfText (.malformedReply url) text
    | none => .error (.malformedReply url)

def readFile (tree : Tree) (path : String) : Except LoadError String :=
  (tree.readText path).mapError (LoadError.unreadable path)

/-- The source of the schema that a pointer leads to. -/
def loadPointer (tree : Tree) (network : Network) (headers : List Header) :
    Pointer → Loaded String
  | .endpoint url => queryServer network headers url
  | .remoteGraphQl url => fetchText network headers url
  | .remoteJson url =>
      (fetchText network headers url).andThen (sourceOfText (.malformedRemoteFile url))
  | .graphQlFile path => .local (readFile tree path)
  | .jsonFile path => .local ((readFile tree path).bind (sourceOfText (.malformedFile path)))

/-- This function loads the source of a schema. -/
def loadSource (tree : Tree) (network : Network) (headers : List Header) (pointer : String) :
    Loaded String :=
  match checkHeaders headers with
  | .error error => .local (.error (.badHeader error))
  | .ok () =>
      match Pointer.detect pointer with
      | none => .local (.error (.unsupported pointer))
      | some detected => loadPointer tree network headers detected

/-- This function loads a schema, which must be valid. -/
def loadSchema (tree : Tree) (network : Network) (headers : List Header) (pointer : String) :
    Loaded Schema :=
  (loadSource tree network headers pointer).andThen fun source =>
    (Schema.read pointer source).mapError LoadError.invalid

end OperationCheck.Source
