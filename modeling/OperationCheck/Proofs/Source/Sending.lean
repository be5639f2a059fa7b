import OperationCheck.Configuration
import OperationCheck.Proofs.Http.Fields
import OperationCheck.Proofs.Http.Headers
import OperationCheck.Proofs.Source.Responses

/-!
What the first request for a schema carries. The main statement follows the headers from the
arguments of the command line to the server. None of their values is lost, and defaults stand only
for names that were not chosen. It holds for every way in which a client understands addresses.
-/

namespace OperationCheck.Http

/-- The network is first asked for what the request is completed to. -/
theorem head_send (network : Network) (request : Request) :
    (network.send request).requests.head? =
      (network.answer 0 request.complete).map fun _ => request.complete := by
  cases answered : network.answer 0 request.complete with
  | none =>
      rw [Network.send, followRedirections_unanswered answered]
      rfl
  | some response =>
      obtain ⟨others, isSent⟩ := send_first network request response answered
      rw [← isSent]
      rfl

/-- A request carries the headers that were chosen for it, and defaults for the other names. This is
what a client assembles for it. -/
structure Request.Carries (sent : Request) (headers : List Header) : Prop where
  chosen : ∀ name, hasHeader headers name = true →
    valuesOf sent.headers name = valuesOf headers name
  default : ∀ name, hasHeader headers name = false →
    valuesOf sent.headers name = valuesOf sent.defaults name
  assembled : ∀ name, Fields.values { sent with headers }.assemble (Text.lowercase name) =
    valuesOf sent.headers name

/-- A request that is completed carries the headers that it had. -/
theorem carries_complete (request : Request) : request.complete.Carries request.headers where
  chosen name isChosen := by rw [valuesOf_complete, if_pos isChosen]
  default name notChosen := by
    rw [valuesOf_complete, if_neg (Bool.eq_false_iff.1 notChosen)]
    rfl
  assembled := values_assemble request

end OperationCheck.Http

namespace OperationCheck

open OperationCheck.CommandLine OperationCheck.Http

/-- A configuration has the headers of its arguments, unless one of them is malformed. -/
theorem make_cases (environment : Environment) (arguments : Arguments) :
    (∃ configuration, Configuration.make environment arguments = .ok configuration ∧
        List.Forall₂ IsHeaderOf arguments.headers configuration.headers) ∨
      ∃ argument ∈ arguments.headers, IsMalformed argument ∧
        Configuration.make environment arguments = .error (.malformed argument) := by
  unfold Configuration.make
  rcases mapM_parse_cases arguments.headers with ⟨headers, areRead, areHeaders⟩ |
    ⟨front, argument, behind, isList, -, isMalformed, refused⟩
  · rw [areRead]
    exact .inl ⟨_, rfl, areHeaders⟩
  · rw [refused, isList]
    exact .inr ⟨argument, by simp, isMalformed, rfl⟩

end OperationCheck

namespace OperationCheck.Source

open OperationCheck.Files OperationCheck.Http OperationCheck.Introspection

/-- A server is sent a query. -/
def Pointer.method : Pointer → Method
  | .endpoint _ => .post
  | _ => .get

def Pointer.body? : Pointer → Option String
  | .endpoint _ => some requestBody
  | _ => none

/-- A remote pointer is fetched with its own method, its own text as the address, and its own
body. -/
theorem Pointer.fetch_eq {network : Network} {headers : List Header} {pointer : Pointer}
    {fetch : Fetch} (isRemote : pointer.fetch? network headers = some fetch) :
    fetch = network.fetch pointer.method pointer.text headers pointer.body? := by
  cases pointer with
  | endpoint | remoteGraphQl | remoteJson => exact (Option.some.inj isRemote).symm
  | graphQlFile | jsonFile => cases isRemote

/-- A detected pointer keeps the text it was given. -/
theorem text_of_detect {pointer : String} {detected : Pointer}
    (isDetected : Pointer.detect pointer = some detected) : detected.text = pointer := by
  unfold Pointer.detect at isDetected
  repeat' split at isDetected
  all_goals cases isDetected <;> rfl

/-- What is fetched from an address is fetched in the way of its pointer. -/
theorem requests_of_detect {headers : List Header} (accepted : checkHeaders headers = .ok ())
    {pointer : String} (isRemote : isUrl pointer = true) {detected : Pointer}
    (isDetected : Pointer.detect pointer = some detected) (tree : Tree) (network : Network) :
    (loadSource tree network headers pointer).requests =
      (network.fetch detected.method pointer headers detected.body?).requests := by
  obtain ⟨other, fetch, isOther, isFetch⟩ := @exists_fetch_of_isUrl network headers _ isRemote
  obtain rfl := Option.some.inj (isDetected.symm.trans isOther)
  rw [loadSource_of_detect isDetected, accepted]
  dsimp only
  rw [loadPointer_of_fetch isFetch, Pointer.fetch_eq isFetch, text_of_detect isDetected]

/-- The headers pass just where each has a name and a value that can be sent. -/
theorem checkHeaders_eq_ok_iff {headers : List Header} : checkHeaders headers = .ok () ↔
    ∀ header ∈ headers, isHeaderName header.name = true ∧ isHeaderValue header.value = true := by
  have noError (header : Header) : headerError? header = none ↔
      isHeaderName header.name = true ∧ isHeaderValue header.value = true := by
    rw [headerError?]
    cases isHeaderName header.name <;> cases isHeaderValue header.value <;> simp
  rw [checkHeaders_eq]
  simp only [← noError, ← List.findSome?_eq_none_iff]
  cases headers.findSome? headerError? with
  | none => exact iff_of_true rfl rfl
  | some error => simp [resultOf]

/-- Arguments for headers are refused if and only if one of them is malformed, and otherwise the
headers are the trimmed texts around the first colons. When headers are accepted, the first request
for an address carries all their values, and a default only for a name that was not chosen. A client
sends nothing to a pointer that it does not understand as an address. -/
theorem headers_reach_server (environment : Environment) (arguments : CommandLine.Arguments) :
    ((∃ error, Configuration.make environment arguments = .error error) ↔
        ∃ argument ∈ arguments.headers, IsMalformed argument) ∧
      (∀ configuration, Configuration.make environment arguments = .ok configuration →
        List.Forall₂ IsHeaderOf arguments.headers configuration.headers) ∧
      ∀ headers pointer, checkHeaders headers = .ok () → isUrl pointer = true →
        ∃ detected, Pointer.detect pointer = some detected ∧
          ∀ addressing : Addressing,
            (addressing.read pointer = none → ∀ tree answer,
              (loadSource tree ⟨addressing, answer⟩ headers pointer).requests = []) ∧
            ∀ address, addressing.read pointer = some address →
              ∃ sent : Request, sent.method = detected.method ∧ sent.address = address ∧
                sent.body = detected.body? ∧ sent.Carries headers ∧
                ∀ tree answer,
                  (loadSource tree ⟨addressing, answer⟩ headers pointer).requests.head? =
                    (answer 0 sent).map fun _ => sent := by
  refine ⟨?_, fun configuration isMade => ?_, fun headers pointer accepted isRemote => ?_⟩
  · rcases make_cases environment arguments with ⟨configuration, isMade, areHeaders⟩ |
      ⟨argument, member, isMalformed, refused⟩
    · rw [isMade]
      refine ⟨nofun, fun ⟨argument, member, isMalformed⟩ => ?_⟩
      exact absurd isMalformed (proper_of_headers areHeaders argument member)
    · exact ⟨fun _ => ⟨argument, member, isMalformed⟩, fun _ => ⟨_, refused⟩⟩
  · rcases make_cases environment arguments with ⟨other, isOther, areHeaders⟩ |
      ⟨argument, member, isMalformed, refused⟩
    · obtain rfl := Except.ok.inj (isMade.symm.trans isOther)
      exact areHeaders
    · cases isMade.symm.trans refused
  · obtain ⟨detected, -, isDetected, -⟩ :=
      @exists_fetch_of_isUrl Network.unreachable headers _ isRemote
    refine ⟨detected, isDetected, fun addressing => ⟨fun noAddress tree answer => ?_,
      fun address isAddress => ?_⟩⟩
    · rw [requests_of_detect accepted isRemote isDetected, Network.fetch, noAddress]
    · refine ⟨(Request.mk detected.method address headers detected.body?).complete, rfl, rfl, rfl,
        carries_complete _, fun tree answer => ?_⟩
      rw [requests_of_detect accepted isRemote isDetected, Network.fetch, isAddress]
      exact head_send ⟨addressing, answer⟩ _

/-- One name is given twice, with a colon in a value and with no value, and two names are those of
defaults. -/
def chosenArguments : List String :=
  ["Authorization: Bearer a:b", "authorization:", "USER-AGENT : own", "Content-Type:text/plain "]

def chosenHeaders : List Header :=
  [⟨"Authorization", "Bearer a:b"⟩, ⟨"authorization", ""⟩, ⟨"USER-AGENT", "own"⟩,
    ⟨"Content-Type", "text/plain"⟩]

/-- The arguments of a run with these headers. -/
def argumentsWith (headers : List String) : CommandLine.Arguments :=
  ⟨"http://u:p@h/g", "*.graphql", headers, "auto", none, .auto, .auto, "warn"⟩

theorem chosenHeaders_accepted : checkHeaders chosenHeaders = .ok () := by
  have areTokens : ∀ header ∈ chosenHeaders, header.name.toList.all isTokenCharacter = true := by
    rw [← List.all_eq_true]
    cbv
  have areNames : ∀ header ∈ chosenHeaders, header.name ≠ "" ∧ header.name.utf8ByteSize ≤ 65535 := by
    decide +kernel
  have areValues : ∀ header ∈ chosenHeaders, isHeaderValue header.value = true := by decide +kernel
  refine checkHeaders_eq_ok_iff.2 fun header member => ⟨?_, areValues header member⟩
  obtain ⟨nonempty, isShort⟩ := areNames header member
  rw [isHeaderName, decide_eq_true nonempty, decide_eq_true isShort, areTokens header member]
  rfl

/-- Both values of a repeated name reach a server. A default gives way to what was chosen, and so do
the name and the password in the pointer. The other defaults stay. -/
theorem headers_reach_server_repeated :
    (∃ error, Configuration.make ⟨[], false⟩ (argumentsWith ["a: b", " : c"]) = .error error) ∧
      (∃ configuration,
        Configuration.make ⟨[], false⟩ (argumentsWith chosenArguments) = .ok configuration ∧
          configuration.headers = chosenHeaders ∧
          List.Forall₂ IsHeaderOf chosenArguments configuration.headers) ∧
      checkHeaders chosenHeaders = .ok () ∧ isUrl "http://u:p@h/g" = true ∧
      knownAddressing.read "http://u:p@h/g" = some authorizedAddress ∧
      ∃ sent : Request, sent.method = .post ∧
        (loadSource rootTree rootNetwork chosenHeaders "http://u:p@h/g").requests.head? = some sent ∧
        valuesOf sent.headers "AUTHORIZATION" = ["Bearer a:b", ""] ∧
        valuesOf sent.headers "user-agent" = ["own"] ∧
        valuesOf sent.headers "content-type" = ["text/plain"] ∧
        valuesOf sent.headers "accept" = ["*/*"] := by
  have isRemote : isUrl "http://u:p@h/g" = true := by decide +kernel
  have isAddress : knownAddressing.read "http://u:p@h/g" = some authorizedAddress := by
    decide +kernel
  have isEndpoint : Pointer.detect "http://u:p@h/g" = some (.endpoint "http://u:p@h/g") := by
    decide +kernel
  have isMalformed : IsMalformed " : c" :=
    .inr ⟨[' '], [' ', 'c'], ⟨by decide, by decide +kernel⟩,
      List.forall_mem_singleton.2 (by decide)⟩
  have areRead : chosenArguments.mapM Header.parse = .ok chosenHeaders := by cbv
  have isMade : ∃ configuration, Configuration.make ⟨[], false⟩ (argumentsWith chosenArguments) =
      .ok configuration ∧ configuration.headers = chosenHeaders := by
    unfold Configuration.make argumentsWith
    rw [areRead]
    exact ⟨_, rfl, rfl⟩
  obtain ⟨configuration, isMade, areChosen⟩ := isMade
  obtain ⟨fails, -, -⟩ := headers_reach_server ⟨[], false⟩ (argumentsWith ["a: b", " : c"])
  obtain ⟨-, reads, reach⟩ := headers_reach_server ⟨[], false⟩ (argumentsWith chosenArguments)
  obtain ⟨detected, isDetected, sends⟩ := reach _ _ chosenHeaders_accepted isRemote
  obtain rfl := Option.some.inj (isEndpoint.symm.trans isDetected)
  obtain ⟨sent, isPost, isSentTo, isBody, carries, isFirst⟩ :=
    (sends knownAddressing).2 _ isAddress
  refine ⟨fails.2 ⟨_, .tail _ (.head _), isMalformed⟩,
    ⟨configuration, isMade, areChosen, reads configuration isMade⟩, chosenHeaders_accepted,
    isRemote, isAddress, sent, isPost, isFirst rootTree rootNetwork.answer, ?_, ?_, ?_, ?_⟩
  · rw [carries.chosen _ (by decide +kernel)]
    decide +kernel
  · rw [carries.chosen _ (by decide +kernel)]
    decide +kernel
  · rw [carries.chosen _ (by decide +kernel)]
    decide +kernel
  · rw [carries.default _ (by decide +kernel), Request.defaults, isSentTo, isBody]
    decide +kernel

end OperationCheck.Source
