/-!
Addresses of servers and of what they hold, and how a client understands them in writing.
-/

namespace OperationCheck.Http

/-- An address as a client understands it. The path begins with a slash. The query begins with its
mark, and it may be empty. A name and a password in an address become an authorization. -/
structure Address where
  isSecure : Bool
  host : String
  port : Nat
  path : String
  query : String
  authorization : Option String
deriving Repr, DecidableEq

def usualPort (isSecure : Bool) : Nat := if isSecure then 443 else 80

/-- The server of an address, with its port unless that is the usual one. -/
def Address.server (address : Address) : String :=
  if address.port = usualPort address.isSecure then address.host
  else address.host ++ ":" ++ toString address.port

/-- An address is written without its authorization. -/
def Address.text (address : Address) : String :=
  (if address.isSecure then "https://" else "http://") ++ address.server ++ address.path
    ++ address.query

/-- A location leads to an address, or to a place of another kind where no client goes. -/
inductive Target where
  | address (address : Address)
  | foreign
deriving Repr, DecidableEq

/-- How a client understands what is written. A text is an address unless it is malformed, and so is
a location, which is seen from the address that refers to it. Both belong to the library of the
client, and nothing is assumed of them. -/
structure Addressing where
  read : String → Option Address
  locate : Address → String → Option Target

end OperationCheck.Http
