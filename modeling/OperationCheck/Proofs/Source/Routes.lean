import Mathlib
import OperationCheck.Proofs.Files.Following
import OperationCheck.Proofs.Http.Exchange
import OperationCheck.Proofs.Source.Fetching

/-!
The routes to a schema. A local file, a remote one and a server hand over bytes, and the format of
the pointer alone decides what is read in them. The main statement says that a text gives the same
schema on all routes of one format.
-/

namespace OperationCheck.Source

open OperationCheck.Files OperationCheck.Http OperationCheck.Introspection OperationCheck.TypeSystem

/-- Remote pointers are fetched, each in its own way. -/
def Pointer.fetch? (network : Network) (headers : List Header) : Pointer → Option Fetch
  | .endpoint url => some (network.fetch .post url headers (some requestBody))
  | .remoteGraphQl url | .remoteJson url => some (network.fetch .get url headers none)
  | .graphQlFile _ | .jsonFile _ => none

/-- A server and a file of introspection describe a schema, and the other files hold its source. -/
def Pointer.isDescription : Pointer → Bool
  | .endpoint _ | .remoteJson _ | .jsonFile _ => true
  | .remoteGraphQl _ | .graphQlFile _ => false

/-- The error for a text that is no description. -/
def Pointer.malformed : Pointer → LoadError
  | .endpoint url => .malformedReply url
  | .remoteGraphQl url | .remoteJson url => .malformedRemoteFile url
  | .graphQlFile path | .jsonFile path => .malformedFile path

/-- The error for a response that does not come. -/
def Pointer.unreachable : Pointer → LoadError
  | .endpoint url => .unreachableServer url
  | pointer => .unreachableFile pointer.text

/-- The error for a response that is a refusal. -/
def Pointer.refused : Pointer → LoadError
  | .endpoint url => .refusedQuery url
  | pointer => .refusedFile pointer.text

/-- The error for a response that breaks off. -/
def Pointer.broken : Pointer → LoadError
  | .endpoint url => .malformedReply url
  | pointer => .brokenFile pointer.text

/-- The source of the schema in a text. -/
def Pointer.sourceIn (pointer : Pointer) (text : String) : Except LoadError String :=
  if pointer.isDescription then sourceOfText pointer.malformed text else .ok text

/-- The text in the bytes that a pointer leads to. Only remote files may be damaged. -/
def Pointer.textIn (bytes : ByteArray) : Pointer → Except LoadError String
  | .endpoint url =>
      match String.fromUTF8? bytes with
      | some text => .ok text
      | none => .error (.malformedReply url)
  | .remoteGraphQl _ | .remoteJson _ => .ok (Text.decode bytes)
  | .graphQlFile path | .jsonFile path =>
      match String.fromUTF8? bytes with
      | some text => .ok text
      | none => .error (.unreadable path .notText)

/-- The text in a response to a pointer, unless it breaks off. -/
def Pointer.textOf (response : Response) (pointer : Pointer) : Except LoadError String :=
  match response.content? with
  | some bytes => pointer.textIn bytes
  | none => .error pointer.broken

/-- The response to a remote pointer is read unless it is a refusal. -/
theorem loadPointer_of_fetch {tree : Tree} {network : Network} {headers : List Header}
    {pointer : Pointer} {fetch : Fetch} (isRemote : pointer.fetch? network headers = some fetch) :
    loadPointer tree network headers pointer = ⟨fetch.requests,
      match fetch.result with
      | .error _ => .error pointer.unreachable
      | .ok response =>
          if response.isRefusal then .error pointer.refused
          else (pointer.textOf response).bind pointer.sourceIn⟩ := by
  cases pointer with
  | endpoint url =>
      obtain rfl := Option.some.inj isRemote
      simp only [loadPointer, queryServer, queryAnswer, contentOf, Loaded.andThen]
      cases (network.fetch .post url headers (some requestBody)).result with
      | error fault => rfl
      | ok response =>
          dsimp only [Pointer.textOf]
          split
          · rfl
          -- A body that breaks off has no text, and one that is no text fails where it is read.
          · cases response.content? with
            | none => rfl
            | some bytes =>
                dsimp only [Except.bind, Pointer.textIn]
                cases String.fromUTF8? bytes <;> rfl
  | remoteGraphQl url | remoteJson url =>
      obtain rfl := Option.some.inj isRemote
      simp only [loadPointer, fetchText, contentOf, Loaded.andThen]
      cases (network.fetch .get url headers none).result with
      | error fault => rfl
      | ok response =>
          dsimp only [Pointer.textOf]
          split
          · rfl
          · cases response.content? <;> rfl
  | graphQlFile path | jsonFile path => cases isRemote

/-- The bytes of a local file are taken as they are. -/
theorem loadPointer_of_readBytes {tree : Tree} {network : Network} {headers : List Header}
    {pointer : Pointer} {bytes : ByteArray} (isLocal : pointer.fetch? network headers = none)
    (isRead : tree.readBytes pointer.text = .ok bytes) :
    loadPointer tree network headers pointer =
      .local ((pointer.textIn bytes).bind pointer.sourceIn) := by
  cases pointer with
  | graphQlFile path =>
      simp only [Pointer.text] at isRead
      simp only [loadPointer, readFile, Tree.readText, isRead, Pointer.textIn]
      cases String.fromUTF8? bytes <;> rfl
  | jsonFile path =>
      simp only [Pointer.text] at isRead
      simp only [loadPointer, readFile, Tree.readText, isRead, Pointer.textIn]
      cases String.fromUTF8? bytes <;> rfl
  | endpoint | remoteGraphQl | remoteJson => cases isLocal

/-- A pointer leads to bytes that are read in a local file or that a server sends with success. -/
def Pointer.LeadsTo (tree : Tree) (network : Network) (headers : List Header) (bytes : ByteArray)
    (pointer : Pointer) : Prop :=
  match pointer.fetch? network headers with
  | some fetch => ∃ response, fetch.result = .ok response ∧ response.status = 200 ∧
      response.body = some bytes
  | none => tree.readBytes pointer.text = .ok bytes

/-- What a pointer loads depends on the bytes it leads to and on nothing else of the tree and the
network. -/
theorem loadPointer_of_leadsTo {tree : Tree} {network : Network} {headers : List Header}
    {pointer : Pointer} {bytes : ByteArray}
    (leads : pointer.LeadsTo tree network headers bytes) :
    (loadPointer tree network headers pointer).result =
      (pointer.textIn bytes).bind pointer.sourceIn := by
  unfold Pointer.LeadsTo at leads
  cases isRemote : pointer.fetch? network headers with
  | none =>
      rw [isRemote] at leads
      rw [loadPointer_of_readBytes isRemote leads, Loaded.local]
  | some fetch =>
      rw [isRemote] at leads
      obtain ⟨response, ended, succeeded, isBody⟩ := leads
      have accepted : response.isRefusal = false := by
        rw [Response.isRefusal, succeeded]
        rfl
      have whole : response.content? = some bytes := by
        rw [Response.content?, Response.hasContent, succeeded, isBody]
        rfl
      rw [loadPointer_of_fetch isRemote, ended]
      dsimp only [Pointer.textOf]
      rw [accepted, whole, if_neg Bool.false_ne_true]

/-- The bytes of a text are read back as that text. -/
theorem fromUTF8_toUTF8 (text : String) : String.fromUTF8? text.toUTF8 = some text := by
  rw [String.fromUTF8?, String.toUTF8_eq_toByteArray, dif_pos text.isValidUTF8]
  rfl

/-- A text is found again in its bytes. -/
theorem Pointer.textIn_toUTF8 (pointer : Pointer) (text : String) :
    pointer.textIn text.toUTF8 = .ok text := by
  have decoded : Text.decode text.toUTF8 = text := by rw [Text.decode, fromUTF8_toUTF8]
  cases pointer <;> simp only [Pointer.textIn, fromUTF8_toUTF8, decoded]

/-- The source in a text depends on the format of the pointer alone. -/
theorem Pointer.sourceIn_congr {first second : Pointer}
    (sameFormat : first.isDescription = second.isDescription) (text : String) :
    (first.sourceIn text).toOption = (second.sourceIn text).toOption := by
  unfold Pointer.sourceIn sourceOfText
  rw [sameFormat]
  split
  · cases Json.Value.parse text <;> rfl
  · rfl

/-- The location of a source has no part in the schema. -/
theorem read_toOption (first second source : String) :
    (Schema.read first source).toOption = (Schema.read second source).toOption := by
  unfold Schema.read
  split <;> rfl

/-- Headers are checked before any route is taken. -/
theorem loadSource_of_detect {tree : Tree} {network : Network} {headers : List Header}
    {pointer : String} {detected : Pointer} (isDetected : Pointer.detect pointer = some detected) :
    loadSource tree network headers pointer =
      match checkHeaders headers with
      | .error error => .local (.error (.badHeader error))
      | .ok () => loadPointer tree network headers detected := by
  cases accepted : checkHeaders headers <;> simp only [loadSource, isDetected, accepted]

/-- Whether one step behind another gives a value does not depend on which error either gives. -/
theorem toOption_bind {ε α β : Type} (result : Except ε α) (next : α → Except ε β) :
    (result.bind next).toOption = result.toOption.bind fun value => (next value).toOption := by
  cases result <;> rfl

/-- Restating an error does not change whether there is a value. -/
theorem toOption_mapError {ε δ α : Type} (change : ε → δ) (result : Except ε α) :
    (result.mapError change).toOption = result.toOption := by
  cases result <;> rfl

/-- With headers that can be sent, the bytes that a pointer leads to are read. -/
theorem loadSource_of_bytes {tree : Tree} {network : Network} {headers : List Header}
    {pointer : String} {detected : Pointer} {bytes : ByteArray}
    (isDetected : Pointer.detect pointer = some detected)
    (leads : detected.LeadsTo tree network headers bytes) :
    (loadSource tree network headers pointer).result =
      ((checkHeaders headers).mapError LoadError.badHeader).bind fun _ =>
        (detected.textIn bytes).bind detected.sourceIn := by
  rw [loadSource_of_detect isDetected]
  cases checkHeaders headers with
  | error error => rfl
  | ok accepted => exact loadPointer_of_leadsTo leads

/-- The headers are checked first, then the text the pointer leads to is converted. -/
theorem loadSource_of_leadsTo {tree : Tree} {network : Network} {headers : List Header}
    {pointer text : String} {detected : Pointer}
    (isDetected : Pointer.detect pointer = some detected)
    (leads : detected.LeadsTo tree network headers text.toUTF8) :
    (loadSource tree network headers pointer).result =
      ((checkHeaders headers).mapError LoadError.badHeader).bind fun _ =>
        detected.sourceIn text := by
  rw [loadSource_of_bytes isDetected leads, Pointer.textIn_toUTF8]
  rfl

/-- With headers that can be sent the source is the text converted. -/
theorem loadSource_of_accepted {tree : Tree} {network : Network} {headers : List Header}
    {pointer text : String} {detected : Pointer} (accepted : checkHeaders headers = .ok ())
    (isDetected : Pointer.detect pointer = some detected)
    (leads : detected.LeadsTo tree network headers text.toUTF8) :
    (loadSource tree network headers pointer).result = detected.sourceIn text := by
  rw [loadSource_of_leadsTo isDetected leads, accepted]
  rfl

/-- A text gives the same source, and so the same schema, on all routes of one format. When it gives
none on one of them, it gives none on any. A text that is no description is a source itself. -/
theorem routes_agree {headers : List Header} {text : String} {tree otherTree : Tree}
    {network otherNetwork : Network} {pointer otherPointer : String} {detected other : Pointer}
    (isDetected : Pointer.detect pointer = some detected)
    (isOther : Pointer.detect otherPointer = some other)
    (leads : detected.LeadsTo tree network headers text.toUTF8)
    (otherLeads : other.LeadsTo otherTree otherNetwork headers text.toUTF8)
    (sameFormat : detected.isDescription = other.isDescription) :
    (loadSource tree network headers pointer).result.toOption =
        (loadSource otherTree otherNetwork headers otherPointer).result.toOption ∧
      (loadSchema tree network headers pointer).result.toOption =
        (loadSchema otherTree otherNetwork headers otherPointer).result.toOption ∧
      (detected.isDescription = false → checkHeaders headers = .ok () →
        (loadSource tree network headers pointer).result = .ok text) := by
  have sameSource : (loadSource tree network headers pointer).result.toOption =
      (loadSource otherTree otherNetwork headers otherPointer).result.toOption := by
    rw [loadSource_of_leadsTo isDetected leads, loadSource_of_leadsTo isOther otherLeads,
      toOption_bind, toOption_bind, Pointer.sourceIn_congr sameFormat]
  refine ⟨sameSource, ?_, fun isSource accepted => ?_⟩
  · simp only [loadSchema, Loaded.andThen, toOption_bind, toOption_mapError, sameSource,
      read_toOption pointer otherPointer]
  · rw [loadSource_of_accepted accepted isDetected leads, Pointer.sourceIn, isSource]
    rfl

/-- This answer tells of nothing but a root type. -/
def rootAnswer : String :=
  "\x7b\"__schema\":\x7b\"queryType\":\x7b\"name\":\"Q\"\x7d,\"mutationType\":null," ++
    "\"subscriptionType\":null,\"types\":[],\"directives\":[]\x7d\x7d"

/-- A local file holds the answer. -/
def rootTree : Tree := ⟨[(["s.json"], .file rootAnswer.toUTF8)], [], []⟩

/-- The address of a path on the server `h`. -/
def addressAt (path : String) : Address := ⟨false, "h", 80, path, "", none⟩

/-- A name and a password come with this address. -/
def authorizedAddress : Address := { addressAt "/g" with authorization := some "Basic dTpw" }

/-- The addresses of some files on a server. -/
def knownAddresses : List (String × Address) :=
  [("http://h/g", addressAt "/g"), ("http://h/s.json", addressAt "/s.json"),
    ("http://h/s.graphql", addressAt "/s.graphql"),
    ("http://u:p@h/g", authorizedAddress)]

/-- A client understands these addresses, and a location that is a path on the same server. -/
def knownAddressing : Addressing where
  read text := knownAddresses.lookup text
  locate address location :=
    if location = "/t" then some (.address { address with path := location }) else none

/-- A server sends the answer. -/
def rootNetwork : Network := Network.replay knownAddressing ⟨200, [], some rootAnswer.toUTF8⟩ []

/-- The source that the answer describes. -/
def rootSource : String := "schema \x7b\n  query: Q\n\x7d\n"

/-- The answer of the example is read as its schema, by either form of pointer for descriptions. -/
theorem sourceIn_rootAnswer {pointer : Pointer} (isDescription : pointer.isDescription = true) :
    pointer.sourceIn rootAnswer = .ok rootSource := by
  have isSource (malformed : LoadError) : sourceOfText malformed rootAnswer = .ok rootSource := by
    cbv
  rw [Pointer.sourceIn, if_pos isDescription, isSource]

theorem detect_server : Pointer.detect "http://h/g" = some (.endpoint "http://h/g") := by
  decide +kernel

/-- The address of the server is understood. -/
theorem read_server : knownAddressing.read "http://h/g" = some (addressAt "/g") := by
  decide +kernel

/-- A file and a server that tell of the same root type give the same source. -/
theorem routes_agree_root :
    Pointer.detect "s.json" = some (.jsonFile "s.json") ∧
      Pointer.detect "http://h/g" = some (.endpoint "http://h/g") ∧
      (Pointer.jsonFile "s.json").LeadsTo rootTree Network.unreachable [] rootAnswer.toUTF8 ∧
      (Pointer.endpoint "http://h/g").LeadsTo rootTree rootNetwork [] rootAnswer.toUTF8 ∧
      (loadSource rootTree Network.unreachable [] "s.json").result = .ok rootSource ∧
      (loadSource rootTree rootNetwork [] "http://h/g").result.toOption = some rootSource := by
  have isFile : Pointer.detect "s.json" = some (.jsonFile "s.json") := by decide +kernel
  have found : (Pointer.jsonFile "s.json").LeadsTo rootTree Network.unreachable []
      rootAnswer.toUTF8 := by
    change rootTree.readBytes "s.json" = .ok rootAnswer.toUTF8
    cbv
  have fetched : rootNetwork.fetch .post "http://h/g" [] (some requestBody) = _ :=
    fetch_of_first read_server rfl rfl
  have leads : (Pointer.endpoint "http://h/g").LeadsTo rootTree rootNetwork []
      rootAnswer.toUTF8 :=
    ⟨_, congrArg Fetch.result fetched, rfl, rfl⟩
  have ofFile : (loadSource rootTree Network.unreachable [] "s.json").result = .ok rootSource := by
    rw [loadSource_of_accepted rfl isFile found, sourceIn_rootAnswer rfl]
  obtain ⟨same, -⟩ := routes_agree isFile detect_server found leads rfl
  rw [ofFile] at same
  exact ⟨isFile, detect_server, found, leads, ofFile, same.symm⟩

end OperationCheck.Source
