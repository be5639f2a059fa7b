import OperationCheck.Http.Network

/-!
How a fetch ends. The last response that was received decides: it is the result when it sends the
client nowhere, and otherwise the fetch has failed on the way to another place.
-/

namespace OperationCheck.Http

/-- A response comes from the address that its request was sent to. -/
structure Received where
  address : Address
  response : Response

/-- The place where a response sends a client of the network. -/
def Network.target? (network : Network) (received : Received) : Option Target :=
  received.response.target? network.addressing received.address

/-- The last response to requests that were all answered. -/
def Network.last? (network : Network) (requests : List Request) : Option Received :=
  requests.getLast?.bind fun request =>
    (network.answer (requests.length - 1) request).map (Received.mk request.address)

/-- The response to the request behind all others is the last one. -/
theorem Network.last_concat {network : Network} {sent : List Request} {request : Request}
    {response : Response} (answered : network.answer sent.length request = some response) :
    network.last? (sent ++ [request]) = some ⟨request.address, response⟩ := by
  have count : (sent ++ [request]).length - 1 = sent.length := by
    rw [List.length_append, List.length_singleton, Nat.add_sub_cancel]
  rw [Network.last?, List.getLast?_concat, Option.bind_some, count, answered, Option.map_some]

/-- A fetch in a network gives the last response if that sends the client nowhere. -/
def Fetch.Follows (network : Network) (fetch : Fetch) (received : Received) : Prop :=
  (network.target? received = none → fetch.result = .ok received.response) ∧
    ((network.target? received).isSome → ∃ fault, fetch.result = .error fault)

/-- A fetch ends with a response that sends the client nowhere. -/
theorem Fetch.follows_of_none {network : Network} {fetch : Fetch} {received : Received}
    (sends : network.target? received = none) (ended : fetch.result = .ok received.response) :
    fetch.Follows network received :=
  ⟨fun _ => ended, fun some => absurd some (by rw [sends]; exact Bool.false_ne_true)⟩

/-- A fetch fails when the last response still sends the client on. -/
theorem Fetch.follows_of_some {network : Network} {fetch : Fetch} {received : Received}
    {target : Target} {fault : FetchFault} (sends : network.target? received = some target)
    (ended : fetch.result = .error fault) : fetch.Follows network received :=
  ⟨fun none => absurd (sends.symm.trans none) (Option.some_ne_none target), fun _ => ⟨fault, ended⟩⟩

section Steps

variable {network : Network} {left : Nat} {sent : List Request} {request : Request}
  {response : Response} {target : Address}

/-- Nothing is received when no server can be reached. -/
theorem followRedirections_unanswered
    (answered : network.answer sent.length request.complete = none) :
    followRedirections network left sent request = ⟨sent, .error .unreachable⟩ := by
  unfold followRedirections
  rw [answered]

/-- A response that sends the client nowhere is the last one. -/
theorem followRedirections_end
    (answered : network.answer sent.length request.complete = some response)
    (sends : response.target? network.addressing request.address = none) :
    followRedirections network left sent request = ⟨sent ++ [request.complete], .ok response⟩ := by
  unfold followRedirections
  rw [answered]
  dsimp only
  rw [sends]

/-- A place of another kind is refused. -/
theorem followRedirections_foreign
    (answered : network.answer sent.length request.complete = some response)
    (sends : response.target? network.addressing request.address = some .foreign) :
    followRedirections network left sent request =
      ⟨sent ++ [request.complete], .error .foreignTarget⟩ := by
  unfold followRedirections
  rw [answered]
  dsimp only
  rw [sends]

/-- The client does not go on for ever. -/
theorem followRedirections_limit
    (answered : network.answer sent.length request.complete = some response)
    (sends : response.target? network.addressing request.address = some (.address target)) :
    followRedirections network 0 sent request =
      ⟨sent ++ [request.complete], .error .tooManyRedirections⟩ := by
  unfold followRedirections
  rw [answered]
  dsimp only
  rw [sends]

/-- The client goes on to the place where it is sent. -/
theorem followRedirections_next
    (answered : network.answer sent.length request.complete = some response)
    (sends : response.target? network.addressing request.address = some (.address target)) :
    followRedirections network (left + 1) sent request =
      followRedirections network left (sent ++ [request.complete])
        (request.redirect response.status target) := by
  conv => lhs; unfold followRedirections
  rw [answered]
  dsimp only
  rw [sends]

end Steps

/-- The last response of a fetch decides how it ends, or no server can be reached at all. -/
def Network.Settles (network : Network) (sent : List Request) (fetch : Fetch) : Prop :=
  fetch = ⟨sent, .error .unreachable⟩ ∨
    ∃ received, network.last? fetch.requests = some received ∧ fetch.Follows network received

/-- A response that sends the client nowhere settles a fetch, and so does one that sends it to a
place of another kind. -/
theorem settles_of_last {network : Network} (left : Nat) {sent : List Request} {request : Request}
    {response : Response} (answered : network.answer sent.length request.complete = some response)
    (last : ∀ target, response.target? network.addressing request.address ≠
      some (.address target)) :
    network.Settles sent (followRedirections network left sent request) := by
  right
  refine ⟨⟨request.address, response⟩, ?_⟩
  cases sends : response.target? network.addressing request.address with
  | none =>
      rw [followRedirections_end answered sends]
      exact ⟨Network.last_concat answered, Fetch.follows_of_none sends rfl⟩
  | some target =>
      cases target with
      | address target => exact absurd sends (last target)
      | foreign =>
          rw [followRedirections_foreign answered sends]
          exact ⟨Network.last_concat answered, Fetch.follows_of_some sends rfl⟩

/-- Each redirection that is followed brings a further response, unless no server can be reached. -/
theorem followRedirections_settles (network : Network) (left : Nat) (sent : List Request)
    (request : Request) :
    network.Settles sent (followRedirections network left sent request) := by
  induction left generalizing sent request with
  | zero =>
      cases answered : network.answer sent.length request.complete with
      | none => exact .inl (followRedirections_unanswered answered)
      | some response =>
          by_cases goesOn : ∃ target, response.target? network.addressing request.address =
              some (.address target)
          · obtain ⟨target, sends⟩ := goesOn
            rw [followRedirections_limit answered sends]
            exact .inr ⟨⟨request.address, response⟩, Network.last_concat answered,
              Fetch.follows_of_some sends rfl⟩
          · exact settles_of_last 0 answered (not_exists.1 goesOn)
  | succ left ih =>
      cases answered : network.answer sent.length request.complete with
      | none => exact .inl (followRedirections_unanswered answered)
      | some response =>
          by_cases goesOn : ∃ target, response.target? network.addressing request.address =
              some (.address target)
          · obtain ⟨target, sends⟩ := goesOn
            rw [followRedirections_next answered sends]
            rcases ih (sent ++ [request.complete]) (request.redirect response.status target) with
              unreachable | further
            · rw [unreachable]
              exact .inr ⟨⟨request.address, response⟩, Network.last_concat answered,
                Fetch.follows_of_some sends rfl⟩
            · exact .inr further
          · exact settles_of_last (left + 1) answered (not_exists.1 goesOn)

/-- The last response that was received decides how a fetch ends. -/
theorem fetch_follows {network : Network} {method : Method} {address : String}
    {headers : List Header} {body : Option String} {received : Received}
    (last : network.last? (network.fetch method address headers body).requests = some received) :
    (network.fetch method address headers body).Follows network received := by
  unfold Network.fetch at last ⊢
  cases isAddress : network.addressing.read address with
  | none =>
      rw [isAddress] at last
      cases last
  | some parsed =>
      rw [isAddress] at last
      dsimp only [Network.send] at last ⊢
      rcases followRedirections_settles network redirectionLimit []
        ⟨method, parsed, headers, body⟩ with unreachable | ⟨other, isLast, follows⟩
      · rw [unreachable] at last
        cases last
      · obtain rfl := Option.some.inj (isLast.symm.trans last)
        exact follows

/-- A first response that sends the client nowhere is the result. -/
theorem fetch_of_first {network : Network} {method : Method} {address : String} {parsed : Address}
    {headers : List Header} {body : Option String} {response : Response}
    (isAddress : network.addressing.read address = some parsed)
    (answered : network.answer 0 (Request.mk method parsed headers body).complete = some response)
    (sends : response.target? network.addressing parsed = none) :
    network.fetch method address headers body =
      ⟨[(Request.mk method parsed headers body).complete], .ok response⟩ := by
  rw [Network.fetch, isAddress]
  exact @followRedirections_end network redirectionLimit [] _ response answered sends

end OperationCheck.Http
