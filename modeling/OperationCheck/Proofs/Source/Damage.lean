import OperationCheck.Proofs.Source.Routes
import OperationCheck.Proofs.Text.Decoding

/-!
Damaged schemas. Servers of a description and local files are refused when their bytes are damaged.
The main statement says that the text of a remote file is read all the same, with marks in it.
-/

namespace OperationCheck.Source

open OperationCheck.Files OperationCheck.Http

/-- Marks stand for the damaged characters of these pointers. -/
def Pointer.substitutes : Pointer → Bool
  | .remoteGraphQl _ | .remoteJson _ => true
  | .endpoint _ | .graphQlFile _ | .jsonFile _ => false

/-- Damaged bytes are refused, or they are read with marks. -/
theorem Pointer.textIn_damaged {bytes : ByteArray} (damaged : String.fromUTF8? bytes = none)
    (pointer : Pointer) :
    (pointer.substitutes = false ∧ ∃ error, pointer.textIn bytes = .error error) ∨
      (pointer.substitutes = true ∧ pointer.textIn bytes = .ok (Text.decode bytes)) := by
  cases pointer with
  | endpoint url =>
      left
      exact ⟨rfl, .malformedReply url, by rw [textIn, damaged]⟩
  | graphQlFile path | jsonFile path =>
      left
      exact ⟨rfl, .unreadable path .notText, by rw [textIn, damaged]⟩
  | remoteGraphQl url | remoteJson url =>
      right
      exact ⟨rfl, rfl⟩

/-- A source that is not loaded gives no schema. -/
theorem loadSchema_of_error {tree : Tree} {network : Network} {headers : List Header}
    {pointer : String} {error : LoadError}
    (failed : (loadSource tree network headers pointer).result = .error error) :
    (loadSchema tree network headers pointer).result = .error error := by
  rw [loadSchema, Loaded.andThen, failed]
  rfl

/-- The text of a remote file is read with its marks. -/
theorem loadSource_of_damaged {tree : Tree} {network : Network} {headers : List Header}
    {bytes : ByteArray} {pointer : String} {detected : Pointer}
    (isDetected : Pointer.detect pointer = some detected)
    (leads : detected.LeadsTo tree network headers bytes)
    (damaged : String.fromUTF8? bytes = none) (lenient : detected.substitutes = true)
    (accepted : checkHeaders headers = .ok ()) :
    (loadSource tree network headers pointer).result =
      detected.sourceIn (Text.decode bytes) := by
  rcases detected.textIn_damaged damaged with ⟨strict, -⟩ | ⟨-, isText⟩
  · rw [lenient] at strict
    cases strict
  · rw [loadSource_of_bytes isDetected leads, accepted, isText]
    rfl

/-- Damaged bytes of a local file and of a server that answers queries fail the load. Those of a
remote file do not. There are marks in its text, and a text that is no description is loaded with
them. -/
theorem damaged_bytes_loaded {tree : Tree} {network : Network} {headers : List Header}
    {bytes : ByteArray} {pointer : String} {detected : Pointer}
    (isDetected : Pointer.detect pointer = some detected)
    (leads : detected.LeadsTo tree network headers bytes)
    (damaged : String.fromUTF8? bytes = none) :
    (detected.substitutes = false →
      ∃ error, (loadSource tree network headers pointer).result = .error error ∧
        (loadSchema tree network headers pointer).result = .error error) ∧
    (detected.substitutes = true → checkHeaders headers = .ok () →
      Text.replacement ∈ (Text.decode bytes).toList ∧
        (loadSource tree network headers pointer).result =
          detected.sourceIn (Text.decode bytes) ∧
        (detected.isDescription = false →
          (loadSource tree network headers pointer).result = .ok (Text.decode bytes))) := by
  constructor
  · intro strict
    suffices fails : ∃ error, (loadSource tree network headers pointer).result = .error error by
      obtain ⟨error, failed⟩ := fails
      exact ⟨error, failed, loadSchema_of_error failed⟩
    rcases detected.textIn_damaged damaged with ⟨-, error, isText⟩ | ⟨lenient, -⟩
    · rw [loadSource_of_bytes isDetected leads, isText]
      cases checkHeaders headers <;> exact ⟨_, rfl⟩
    · rw [strict] at lenient
      cases lenient
  · intro lenient accepted
    have loaded := loadSource_of_damaged isDetected leads damaged lenient accepted
    refine ⟨Text.replacement_mem_decode damaged, loaded, fun isSource => ?_⟩
    rw [loaded, Pointer.sourceIn, isSource]
    rfl

/-- A server replies with the same bytes at each address. -/
def replying (bytes : ByteArray) : Network :=
  Network.replay knownAddressing ⟨200, [], some bytes⟩ []

/-- A pointer to a remote file leads to these bytes. -/
theorem leads_of_replying {pointer : Pointer} {address : Address} (tree : Tree)
    (bytes : ByteArray) (lenient : pointer.substitutes = true)
    (isAddress : knownAddressing.read pointer.text = some address) :
    pointer.LeadsTo tree (replying bytes) [] bytes := by
  cases pointer with
  | remoteGraphQl url | remoteJson url =>
      have fetched : (replying bytes).fetch .get url [] none = _ :=
        fetch_of_first isAddress rfl rfl
      exact ⟨_, congrArg Fetch.result fetched, rfl, rfl⟩
  | endpoint | graphQlFile | jsonFile => cases lenient

/-- The name of the root type is damaged in these bytes. -/
def damagedAnswer : ByteArray :=
  "\x7b\"__schema\":\x7b\"queryType\":\x7b\"name\":\"Q".toUTF8.push 0xFF ++
    ("\"\x7d,\"mutationType\":null,\"subscriptionType\":null,\"types\":[]," ++
      "\"directives\":[]\x7d\x7d").toUTF8

/-- The name of the root type is loaded with a mark. -/
theorem damaged_bytes_loaded_answer :
    Pointer.detect "http://h/s.json" = some (.remoteJson "http://h/s.json") ∧
      (Pointer.remoteJson "http://h/s.json").LeadsTo rootTree (replying damagedAnswer) []
        damagedAnswer ∧
      String.fromUTF8? damagedAnswer = none ∧
      (loadSource rootTree (replying damagedAnswer) [] "http://h/s.json").result =
        .ok "schema \x7b\n  query: Q\ufffd\n\x7d\n" := by
  have isDetected : Pointer.detect "http://h/s.json" = some (.remoteJson "http://h/s.json") := by
    decide +kernel
  have leads : (Pointer.remoteJson "http://h/s.json").LeadsTo rootTree (replying damagedAnswer) []
      damagedAnswer :=
    @leads_of_replying _ (addressAt "/s.json") rootTree damagedAnswer rfl (by decide +kernel)
  have damaged : String.fromUTF8? damagedAnswer = none := by decide +kernel
  have decoded : Text.decode damagedAnswer =
      "\x7b\"__schema\":\x7b\"queryType\":\x7b\"name\":\"Q\ufffd\"\x7d,\"mutationType\":null," ++
        "\"subscriptionType\":null,\"types\":[],\"directives\":[]\x7d\x7d" := by
    decide +kernel
  obtain ⟨-, isRead⟩ := damaged_bytes_loaded isDetected leads damaged
  obtain ⟨-, loaded, -⟩ := isRead rfl rfl
  rw [decoded] at loaded
  refine ⟨isDetected, leads, damaged, loaded.trans ?_⟩
  cbv

/-- Only a comment is damaged in these bytes. -/
def damagedComment : ByteArray := "type Query\x7ba:Int\x7d#".toUTF8.push 0xFF

/-- The source is loaded with a mark in its comment, and it gives a schema. -/
theorem damaged_comment_loads :
    String.fromUTF8? damagedComment = none ∧
      (loadSource rootTree (replying damagedComment) [] "http://h/s.graphql").result =
        .ok "type Query\x7ba:Int\x7d#\ufffd" ∧
      ∃ schema,
        (loadSchema rootTree (replying damagedComment) [] "http://h/s.graphql").result =
          .ok schema := by
  have isDetected : Pointer.detect "http://h/s.graphql" =
      some (.remoteGraphQl "http://h/s.graphql") := by
    decide +kernel
  have leads : (Pointer.remoteGraphQl "http://h/s.graphql").LeadsTo rootTree
      (replying damagedComment) [] damagedComment :=
    @leads_of_replying _ (addressAt "/s.graphql") rootTree damagedComment rfl (by decide +kernel)
  have damaged : String.fromUTF8? damagedComment = none := by decide +kernel
  have decoded : Text.decode damagedComment = "type Query\x7ba:Int\x7d#\ufffd" := by decide +kernel
  have loaded := loadSource_of_damaged isDetected leads damaged rfl rfl
  rw [decoded] at loaded
  have valid : errorOf (TypeSystem.Schema.read "http://h/s.graphql"
      "type Query\x7ba:Int\x7d#\ufffd") = none := by
    decide +kernel
  refine ⟨damaged, loaded, ?_⟩
  rw [loadSchema, Loaded.andThen, loaded]
  cases isRead : TypeSystem.Schema.read "http://h/s.graphql" "type Query\x7ba:Int\x7d#\ufffd" with
  | ok schema =>
      exact ⟨schema, congrArg (Except.mapError LoadError.invalid) isRead⟩
  | error invalid =>
      rw [isRead] at valid
      cases valid

end OperationCheck.Source
