import OperationCheck.Http.Message

/-!
A network as a value, and how a response is fetched from it. The main statement says that the first
request that is sent is the one that was asked for.
-/

namespace OperationCheck.Http

/-- A network answers a request, or it cannot be reached. It knows how many requests came before. A
client has its own way of understanding addresses. -/
structure Network where
  addressing : Addressing
  answer : Nat → Request → Option Response

/-- Where no server can be reached, the client need not understand any address. -/
def Network.unreachable : Network := ⟨⟨fun _ => none, fun _ _ => none⟩, fun _ _ => none⟩

/-- This network gives its responses in turn, and the last one stays. -/
def Network.replay (addressing : Addressing) (first : Response) (rest : List Response) : Network :=
  ⟨addressing, fun count _ =>
    some ((first :: rest).getD count ((first :: rest).getLastD first))⟩

inductive FetchFault where
  | badAddress
  | unreachable
  | tooManyRedirections
  | foreignTarget
deriving Repr, DecidableEq

/-- The requests are the ones that were answered. -/
structure Fetch where
  requests : List Request
  result : Except FetchFault Response

/-- This function follows redirections for a number of times. -/
def followRedirections (network : Network) : Nat → List Request → Request → Fetch
  | left, sent, request =>
      match network.answer sent.length request.complete with
      | none => ⟨sent, .error .unreachable⟩
      | some response =>
          let sent := sent ++ [request.complete]
          match response.target? network.addressing request.address with
          | none => ⟨sent, .ok response⟩
          | some .foreign => ⟨sent, .error .foreignTarget⟩
          | some (.address target) =>
              match left with
              | 0 => ⟨sent, .error .tooManyRedirections⟩
              | left + 1 =>
                  followRedirections network left sent (request.redirect response.status target)

def redirectionLimit : Nat := 10

def Network.send (network : Network) (request : Request) : Fetch :=
  followRedirections network redirectionLimit [] request

/-- The requests that were sent before stay the first ones. -/
theorem followRedirections_sent (network : Network) (left : Nat) (sent : List Request)
    (request : Request) :
    sent <+: (followRedirections network left sent request).requests := by
  induction left generalizing sent request with
  | zero =>
      unfold followRedirections
      split
      · exact List.prefix_refl sent
      · dsimp only
        split <;> exact List.prefix_append sent _
  | succ left ih =>
      unfold followRedirections
      split
      · exact List.prefix_refl sent
      · dsimp only
        split
        · exact List.prefix_append sent _
        · exact List.prefix_append sent _
        · exact (List.prefix_append sent _).trans (ih _ _)

/-- A request that is answered is the first one that is sent. -/
theorem send_first (network : Network) (request : Request) (response : Response)
    (answered : network.answer 0 request.complete = some response) :
    [request.complete] <+: (network.send request).requests := by
  unfold Network.send followRedirections
  simp only [List.length_nil, answered, List.nil_append]
  split
  · exact List.prefix_refl _
  · exact List.prefix_refl _
  · exact followRedirections_sent ..

/-- This function sends a request to an address in writing. -/
def Network.fetch (network : Network) (method : Method) (address : String)
    (headers : List Header) (body : Option String) : Fetch :=
  match network.addressing.read address with
  | none => ⟨[], .error .badAddress⟩
  | some address => network.send ⟨method, address, headers, body⟩

end OperationCheck.Http
