import EntitySearch.Engine.Call
import EntitySearch.Json.Parser
import EntitySearch.Web.Url

/-!
# An engine behind a web address

Each request to an engine is one web message, and the reply to it says what became of the request.

* `Rest.message`: the message of a request.
* `Rest.Reply.accepted`: the document of a reply, if its status is a success.
* `Rest.outcome`: what a reply says about a request.
* `Rest.call`: a request that is made over a connection.
* `Rest.unreachable`: the connection to an address where nobody answers.
-/

namespace EntitySearch.Rest

/-- What a message wants to do. -/
inductive Verb where
  | get
  | head
  | post
  | put
  | delete
deriving DecidableEq

/-- A message to the engine. -/
structure Message where
  verb : Verb
  /-- The path below the address of the engine, with its query. -/
  path : String
  contentType : Option String := none
  body : String := ""
deriving DecidableEq

/-- A reply of the engine. -/
structure Reply where
  status : Nat
  body : String := ""
deriving DecidableEq

/-- What becomes of a message. -/
inductive Exchange where
  | replied (reply : Reply)
  /-- No reply came within some time. -/
  | late (limit : Duration)
  /-- The engine could not be reached. -/
  | lost (reason : String)
deriving DecidableEq

/-- The address of an engine, without slashes at its end. -/
def address (url : String) : String :=
  String.ofList (url.toList.reverse.dropWhile (· = '/')).reverse

/-! ## Messages -/

/-- A message that carries a document. -/
def carrying (verb : Verb) (path : String) (document : Json) : Message :=
  { verb, path, contentType := some "application/json", body := document.text }

/-- The path at which the health of an index is asked for. The engine waits for the status no longer
than the limit. -/
def healthPath (index : String) (status : HealthStatus) (limit : Duration) : String :=
  "_cluster/health/" ++ index ++ "?wait_for_status=" ++ status.name ++
    "&timeout=" ++ toString limit.millis ++ "ms"

/-- The message of a request. -/
def message : Call → Message
  | .bulk operations =>
    { verb := .post, path := "_bulk", contentType := some "application/x-ndjson",
      body := bulkBody operations }
  | .refresh indices => { verb := .post, path := ",".intercalate indices ++ "/_refresh" }
  | .indexExists index => { verb := .head, path := index }
  | .createIndex index mapping => carrying .put index (.object [("mappings", mapping)])
  | .deleteIndex index => { verb := .delete, path := index }
  | .health index status limit => { verb := .get, path := healthPath index status limit }
  | .search request => carrying .post (request.index ++ "/_search") request.body

/-! ## Replies -/

namespace Reply

/-- Whether the engine did what it was asked for. -/
def isSuccess (reply : Reply) : Bool := 200 ≤ reply.status && reply.status < 300

/-- The document of a reply. -/
def document (reply : Reply) : Except EngineError Json :=
  match Json.parse? reply.body with
  | some document => .ok document
  | none => .error (.decode "error decoding response body")

/-- The document of a reply, if its status is a success. -/
def accepted (reply : Reply) : Except EngineError Json :=
  if reply.isSuccess then reply.document else .error (.status reply.status reply.body)

/-- Whether a reply refuses to create an index because there is one of its name. -/
def saysExists (reply : Reply) : Bool :=
  reply.status == 400 && reply.body.contains "resource_already_exists_exception"

/-- A truth value of a document; it is false if there is none. -/
def flag (document : Json) (name : String) : Bool :=
  ((document.get? name).bind Json.asBool?).getD false

/-- Reads whether an index exists from the status alone: such a reply has no document. -/
def existence (reply : Reply) : Except EngineError Bool :=
  if reply.isSuccess then .ok true
  else if reply.status = 404 then .ok false
  else .error (.status reply.status "")

/-- Reads what became of the creation of an index. -/
def creation (reply : Reply) : Except EngineError Creation :=
  if reply.saysExists then .ok .alreadyExists
  else reply.accepted.map fun document => .created (flag document "acknowledged")

/-- Reads the health of an index. A wait that was too long is refused with status 408, with the
health that was reached. -/
def health (reply : Reply) : Except EngineError IndexHealth := do
  let document ← if reply.status = 408 then reply.document else reply.accepted
  match (document.get? "status").bind Json.asString? with
  | none => .error (.decode "health response without status")
  | some name => return ⟨← HealthStatus.ofName name, flag document "timed_out"⟩

/-- Reads the document of a reply that is about an index, unless the index is missing. -/
def about (index : String) (reply : Reply) : Except EngineError Json :=
  if reply.status = 404 then .error (.notFound index) else reply.accepted

end Reply

/-- What a reply says about a request. -/
def outcome : (call : Call) → Reply → call.Outcome
  | .bulk _, reply => reply.accepted.bind BulkResponse.ofJson
  | .refresh _, reply => reply.accepted.map fun _ => ()
  | .indexExists _, reply => reply.existence
  | .createIndex _ _, reply => reply.creation
  | .deleteIndex index, reply => (reply.about index).map fun _ => ()
  | .health _ _ _, reply => reply.health
  | .search request, reply => (reply.about request.index).bind SearchResponse.ofJson

/-- A request that is made over a connection. -/
def call (connection : Message → Exchange) (call : Call) : call.Outcome :=
  match connection (message call) with
  | .replied reply => outcome call reply
  | .late limit => .error (.timeout limit)
  | .lost reason => .error (.connection reason)

/-- The connection to an address where nobody answers. Messages that cannot be sent there are told
from those that are lost. -/
def unreachable (address : String) (message : Message) : Exchange :=
  match Url.parse? (address ++ "/" ++ message.path) with
  | none => .lost "builder error"
  | some url =>
    let shown := url.withoutUser
    .lost (if shown.isWeb then "-" else "builder error for url (" ++ shown.text ++ ")")

end EntitySearch.Rest
