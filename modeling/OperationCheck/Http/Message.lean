import OperationCheck.Http.Address
import OperationCheck.Http.Header
import OperationCheck.Program
import OperationCheck.Text.Case

/-!
Requests and the responses to them.
-/

namespace OperationCheck.Http

inductive Method where
  | get
  | post
deriving Repr, DecidableEq

def Method.text : Method → String
  | .get => "GET"
  | .post => "POST"

structure Request where
  method : Method
  address : Address
  headers : List Header
  body : Option String
deriving Repr, DecidableEq

/-- The body is missing when the connection breaks before its end. -/
structure Response where
  status : Nat
  headers : List Header
  body : Option ByteArray

/-- The case of a header's name does not matter. -/
def Header.hasName (header : Header) (name : String) : Bool :=
  Text.lowercase header.name == Text.lowercase name

def hasHeader (headers : List Header) (name : String) : Bool :=
  headers.any fun header => header.hasName name

def withoutHeaders (names : List String) (headers : List Header) : List Header :=
  headers.filter fun header => !names.any header.hasName

/-- What a request carries when nothing else is said. A body is of one type. -/
def Request.defaults (request : Request) : List Header :=
  [⟨"user-agent", programName ++ "/" ++ programVersion⟩, ⟨"accept", "*/*"⟩,
    ⟨"host", request.address.server⟩]
    ++ (request.address.authorization.map fun value => ⟨"authorization", value⟩).toList
    ++ if request.body.isSome then [⟨"content-type", "application/json"⟩] else []

/-- A header that was chosen replaces a default. -/
def Request.complete (request : Request) : Request :=
  { request with
    headers := request.headers ++ request.defaults.filter fun header =>
      !hasHeader request.headers header.name }

/-- Other servers must not see these headers. -/
def privateHeaders : List String :=
  ["authorization", "cookie", "cookie2", "proxy-authorization", "www-authenticate"]

/-- These headers describe a body. -/
def bodyHeaders : List String :=
  ["transfer-encoding", "content-encoding", "content-type", "content-length"]

/-- With one of these, a response sends the client to another place. -/
def redirections : List Nat := [301, 302, 303, 307, 308]

/-- With one of these, the other place is only looked at. -/
def getRedirections : List Nat := [301, 302, 303]

/-- A response with one of these has no content. -/
def Response.hasContent (response : Response) : Bool :=
  200 ≤ response.status && response.status ≠ 204 && response.status ≠ 304

def Response.content? (response : Response) : Option ByteArray :=
  if response.hasContent then response.body else some ByteArray.empty

/-- The client or the server made a mistake. -/
def Response.isRefusal (response : Response) : Bool :=
  400 ≤ response.status && response.status ≤ 599

/-- The place where a response sends the client. -/
def Response.target? (addressing : Addressing) (response : Response) (address : Address) :
    Option Target :=
  if redirections.contains response.status then
    (response.headers.find? fun header => header.hasName "location").bind fun header =>
      addressing.locate address header.value
  else none

/-- A place is told where the client comes from, unless it is insecure and the client comes from a
secure one. -/
def refer (source target : Address) (headers : List Header) : List Header :=
  if source.isSecure && !target.isSecure then headers
  else withoutHeaders ["referer"] headers ++ [⟨"referer", source.text⟩]

/-- The request that follows a redirection. Another server does not see the authorization. -/
def Request.redirect (request : Request) (status : Nat) (target : Address) : Request :=
  let isSameServer := request.address.host == target.host && request.address.port == target.port
  let headers := withoutHeaders (if isSameServer then [] else privateHeaders)
    (refer request.address target request.headers)
  let target := { target with
    authorization := if isSameServer then request.address.authorization else none }
  if getRedirections.contains status then
    ⟨.get, target, withoutHeaders bodyHeaders headers, none⟩
  else { request with address := target, headers }

end OperationCheck.Http
