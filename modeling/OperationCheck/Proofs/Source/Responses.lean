import OperationCheck.Proofs.Source.Routes

/-!
What the last response to a load decides. The main statement says that no schema comes from an error
of the client or of the server, or from a redirection, and that other responses are read. So a
response that is neither a success nor one of these is read as well.
-/

namespace OperationCheck.Source

open OperationCheck.Files OperationCheck.Http OperationCheck.Introspection OperationCheck.TypeSystem

/-- The last response decides how the fetch of a remote pointer ends. -/
theorem Pointer.fetch_follows {network : Network} {headers : List Header} {pointer : Pointer}
    {fetch : Fetch} {received : Received} (isRemote : pointer.fetch? network headers = some fetch)
    (last : network.last? fetch.requests = some received) : fetch.Follows network received := by
  cases pointer with
  | endpoint url =>
      obtain rfl := Option.some.inj isRemote
      exact Http.fetch_follows last
  | remoteGraphQl url =>
      obtain rfl := Option.some.inj isRemote
      exact Http.fetch_follows last
  | remoteJson url =>
      obtain rfl := Option.some.inj isRemote
      exact Http.fetch_follows last
  | graphQlFile path => cases isRemote
  | jsonFile path => cases isRemote

/-- An address is a pointer of one of the three remote kinds. -/
theorem exists_fetch_of_isUrl {network : Network} {headers : List Header} {pointer : String}
    (isRemote : isUrl pointer = true) : ∃ detected fetch,
      Pointer.detect pointer = some detected ∧ detected.fetch? network headers = some fetch := by
  unfold Pointer.detect
  rw [if_pos isRemote]
  split
  · split
    · exact ⟨_, _, rfl, rfl⟩
    · split
      · exact ⟨_, _, rfl, rfl⟩
      · exact ⟨_, _, rfl, rfl⟩
  · exact ⟨_, _, rfl, rfl⟩

/-- A load that sends requests has a remote pointer, and headers that can be sent. -/
theorem loadSource_of_last {tree : Tree} {network : Network} {headers : List Header}
    {pointer : String} {received : Received} (isRemote : isUrl pointer = true)
    (last : network.last? (loadSource tree network headers pointer).requests = some received) :
    ∃ (detected : Pointer) (fetch : Fetch), Pointer.detect pointer = some detected ∧
      fetch.Follows network received ∧
      (loadSource tree network headers pointer).result =
        match fetch.result with
        | .error _ => .error detected.unreachable
        | .ok response =>
            if response.isRefusal then .error detected.refused
            else (detected.textOf response).bind detected.sourceIn := by
  obtain ⟨detected, fetch, isDetected, isFetch⟩ := exists_fetch_of_isUrl isRemote
  rw [loadSource_of_detect isDetected] at last ⊢
  cases accepted : checkHeaders headers with
  | error error =>
      rw [accepted] at last
      cases last
  | ok sent =>
      rw [accepted] at last
      dsimp only at last ⊢
      rw [loadPointer_of_fetch isFetch] at last ⊢
      exact ⟨detected, fetch, isDetected, Pointer.fetch_follows isFetch last, rfl⟩

/-- Only a redirection sends the client to another place. -/
theorem target_eq_none {addressing : Addressing} {response : Response} {address : Address}
    (stays : response.status ∉ redirections) : response.target? addressing address = none := by
  rw [Response.target?, if_neg]
  simpa using stays

/-- The last response that was received decides what is loaded from an address. An error of the
client or of the server fails the load, and so does a redirection, whatever their bodies are. The
content of any other response is read, even if it is no success. What a client understands of
addresses does not matter. -/
theorem last_response_decides {tree : Tree} {network : Network} {headers : List Header}
    {pointer : String} {received : Received} (isRemote : isUrl pointer = true)
    (last : network.last? (loadSource tree network headers pointer).requests = some received) :
    (400 ≤ received.response.status ∧ received.response.status ≤ 599 ∨
        (network.target? received).isSome = true →
      ∃ error, (loadSource tree network headers pointer).result = .error error ∧
        (loadSchema tree network headers pointer).result = .error error) ∧
    (¬(400 ≤ received.response.status ∧ received.response.status ≤ 599) →
      received.response.status ∉ redirections →
      ∃ detected, Pointer.detect pointer = some detected ∧
        (loadSource tree network headers pointer).result =
          (detected.textOf received.response).bind detected.sourceIn) := by
  obtain ⟨detected, fetch, isDetected, follows, isResult⟩ := loadSource_of_last isRemote last
  have refuses : received.response.isRefusal = true ↔
      400 ≤ received.response.status ∧ received.response.status ≤ 599 := by
    rw [Response.isRefusal, Bool.and_eq_true, decide_eq_true_eq, decide_eq_true_eq]
  constructor
  · intro noSource
    have failed : ∃ error, (loadSource tree network headers pointer).result = .error error := by
      -- A redirection that was the last response is one that was not followed.
      cases sends : network.target? received with
      | none =>
          have refused := refuses.2 (noSource.resolve_right (by rw [sends]; exact Bool.false_ne_true))
          rw [isResult, follows.1 sends]
          dsimp only
          rw [if_pos refused]
          exact ⟨_, rfl⟩
      | some target =>
          obtain ⟨fault, ended⟩ := follows.2 (by rw [sends]; rfl)
          rw [isResult, ended]
          exact ⟨_, rfl⟩
    obtain ⟨error, failed⟩ := failed
    refine ⟨error, failed, ?_⟩
    rw [loadSchema, Loaded.andThen, failed]
    rfl
  · intro noRefusal stays
    refine ⟨detected, isDetected, ?_⟩
    rw [isResult, follows.1 (target_eq_none stays)]
    dsimp only
    rw [if_neg (mt refuses.1 noRefusal)]

/-- A response that sends the client to another place on its server. -/
def movedResponse : Response := ⟨302, [⟨"location", "/t"⟩], some ByteArray.empty⟩

/-- A server sends the client to another place, where there is an answer with an error. -/
def movedNetwork : Network :=
  Network.replay knownAddressing movedResponse [⟨404, [], some rootAnswer.toUTF8⟩]

/-- The last response comes from the other place. -/
theorem movedNetwork_last :
    movedNetwork.last? (loadSource rootTree movedNetwork [] "http://h/g").requests =
      some ⟨addressAt "/t", ⟨404, [], some rootAnswer.toUTF8⟩⟩ := by
  have sends : movedResponse.target? knownAddressing (addressAt "/g") =
      some (.address (addressAt "/t")) := by cbv
  have moved := @followRedirections_next movedNetwork 9 []
    ⟨.post, addressAt "/g", [], some requestBody⟩ movedResponse _ rfl sends
  have fetched : movedNetwork.last? (movedNetwork.fetch .post "http://h/g" []
      (some requestBody)).requests =
        some ⟨addressAt "/t", ⟨404, [], some rootAnswer.toUTF8⟩⟩ := by
    have isAddress : movedNetwork.addressing.read "http://h/g" = some (addressAt "/g") := read_server
    rw [Network.fetch, isAddress]
    dsimp only [Network.send, redirectionLimit]
    rw [moved, followRedirections_end rfl rfl]
    rfl
  rw [loadSource_of_detect detect_server]
  exact fetched

/-- The answer with an error is not read, although it describes a schema. -/
theorem last_response_decides_moved :
    isUrl "http://h/g" = true ∧
      movedNetwork.last? (loadSource rootTree movedNetwork [] "http://h/g").requests =
        some ⟨addressAt "/t", ⟨404, [], some rootAnswer.toUTF8⟩⟩ ∧
      ∃ error, (loadSource rootTree movedNetwork [] "http://h/g").result = .error error ∧
        (loadSchema rootTree movedNetwork [] "http://h/g").result = .error error := by
  have isRemote : isUrl "http://h/g" = true := by decide +kernel
  obtain ⟨fails, -⟩ := last_response_decides isRemote movedNetwork_last
  exact ⟨isRemote, movedNetwork_last, fails (.inl ⟨by decide, by decide⟩)⟩

/-- A server offers several places, and describes a schema. -/
def choiceNetwork : Network :=
  Network.replay knownAddressing ⟨300, [], some rootAnswer.toUTF8⟩ []

/-- The last response is no success, and a schema is read in it all the same. -/
theorem multiple_choices_load :
    choiceNetwork.last? (loadSource rootTree choiceNetwork [] "http://h/g").requests =
        some ⟨addressAt "/g", ⟨300, [], some rootAnswer.toUTF8⟩⟩ ∧
      (loadSource rootTree choiceNetwork [] "http://h/g").result = .ok rootSource := by
  have fetched : choiceNetwork.fetch .post "http://h/g" [] (some requestBody) = _ :=
    fetch_of_first read_server rfl rfl
  have loaded : loadSource rootTree choiceNetwork [] "http://h/g" =
      ⟨[(Request.mk .post (addressAt "/g") [] (some requestBody)).complete],
        ((Pointer.endpoint "http://h/g").textIn rootAnswer.toUTF8).bind
          (Pointer.endpoint "http://h/g").sourceIn⟩ := by
    rw [loadSource_of_detect detect_server]
    have read := @loadPointer_of_fetch rootTree choiceNetwork [] (.endpoint "http://h/g") _ rfl
    rw [fetched] at read
    exact read
  rw [loaded]
  constructor
  · rfl
  · simp only [Pointer.textIn_toUTF8, Except.bind]
    exact sourceIn_rootAnswer rfl

end OperationCheck.Source
