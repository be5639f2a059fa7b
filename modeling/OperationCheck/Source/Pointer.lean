import OperationCheck.Files.Path

/-!
Pointers to a schema. The form of a pointer decides how the schema is loaded: from a server that
answers queries, from a remote file, or from a local file.
-/

namespace OperationCheck.Source

open OperationCheck.Files

def graphQlExtensions : List String := ["graphql", "graphqls", "gql"]

/-- A schema comes from a server, from a remote file in one of two formats, or from a local
one. -/
inductive Pointer where
  | endpoint (url : String)
  | remoteGraphQl (url : String)
  | remoteJson (url : String)
  | graphQlFile (path : String)
  | jsonFile (path : String)
deriving Repr, DecidableEq

def isUrl (pointer : String) : Bool :=
  pointer.startsWith "http://" || pointer.startsWith "https://"

/-- The query and the fragment of an address take no part in its extension. -/
def addressPath (url : String) : String :=
  String.ofList (url.toList.takeWhile fun c => c ≠ '?' && c ≠ '#')

/-- This function decides what a pointer points to. -/
def Pointer.detect (pointer : String) : Option Pointer :=
  if isUrl pointer then
    match fileKind? (addressPath pointer) with
    | some kind =>
        if graphQlExtensions.contains kind then some (.remoteGraphQl pointer)
        else if kind = "json" then some (.remoteJson pointer)
        else some (.endpoint pointer)
    | none => some (.endpoint pointer)
  else
    match fileKind? pointer with
    | some kind =>
        if graphQlExtensions.contains kind then some (.graphQlFile pointer)
        else if kind = "json" then some (.jsonFile pointer)
        else none
    | none => none

/-- Only a local file has a path. -/
def Pointer.localPath? : Pointer → Option String
  | .graphQlFile path | .jsonFile path => some path
  | _ => none

def Pointer.text : Pointer → String
  | .endpoint text | .remoteGraphQl text | .remoteJson text => text
  | .graphQlFile text | .jsonFile text => text

def unsupportedMessage (pointer : String) : String :=
  "Unable to load schema from '" ++ pointer ++ "': expected a URL, a GraphQL file ("
    ++ ", ".intercalate (graphQlExtensions.map ("." ++ ·)) ++ ") or a JSON introspection file"

end OperationCheck.Source
