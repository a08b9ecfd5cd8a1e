import HostAgent.Remote.Credentials
import HostAgent.Remote.Status
import HostAgent.Store.Identity
import HostAgent.Host.Name
import HostAgent.Http.Encoding
import HostAgent.Json.Reader
import HostAgent.Json.Struct
import HostAgent.Json.Writer
import HostAgent.Collection.Load

/-!
# `HostAgent.Remote.Http` — the remote service over HTTP

Endpoints by generation:

| call | legacy | modern |
|---|---|---|
| check registration | `GET /v1/systems/{id}` | `GET /inventory/v1/hosts?machine_id={id}` |
| register | `POST /v1/systems` | `POST /v1/systems` |
| unregister | `DELETE /v1/systems/{id}` | `DELETE /inventory/v1/hosts/{id}` |
| upload | `POST /v1/uploads/{id}` | `POST /ingress/v1/upload` |
| rules | `GET /v1/static/uploader.v2.json` | the same |

Every call but a modern upload and the rules first resolves the machine identifier (creating it
when it is missing); an upload checks the archive's content type before that. Requests carry
basic authorization when credentials were resolved; missing credentials are not an error here.

* A request that gets no answer in time is a timeout, one that fails otherwise a transport fault.
  An answer outside `2xx` is a status fault, except that a legacy check reads `404` as
  unregistered, an unregistration reads any other status as refused, and an upload classifies its
  status (`classifyUploadStatus`).
* A legacy check reads the body as a struct whose `unregistered_at` is absent or `null`; a
  modern check reads `total > 0` of a struct whose `total` defaults to `0`
  (`Json.readOneField`); a body that does not fit is a serialization fault.
-/

namespace HostAgent.Remote

open HostAgent.Config HostAgent.Http HostAgent.Store HostAgent.Time HostAgent.Collection
open HostAgent.Json

/-- The user agent of every request. -/
def userAgent : String := "hostwatch/0.1.0"

/-- A client of the remote service. -/
structure HttpService where
  /-- The base address, without trailing slashes. -/
  baseUrl : String
  generation : Generation
  credentials : Option Credentials
  store : StateStore
  hostName : String
  timeout : Duration
  deriving Inhabited

namespace HttpService

/-- Build a client from the settings; credentials that cannot be resolved are left out. -/
def create (c : AgentConfig) (store : StateStore) : Agent HttpService := do
  let credentials ← tryCatch (do pure (some (← resolveCredentials c))) fun _ => pure none
  let system ← Agent.systemHostname
  pure { baseUrl := String.ofList (c.baseUrl.toList.reverse.dropWhile (· == '/')).reverse
         generation := c.protocol, credentials, store, hostName := c.hostName system
         timeout := c.httpTimeout }

/-- The address of an endpoint. -/
def url (h : HttpService) (path : String) : String := h.baseUrl ++ path

/-- The machine identifier, created when missing. -/
def machineId (h : HttpService) : Agent String := do
  pure (← MachineIdentity.resolve h.store false).text

/-- The headers of a request: the user agent and, with basic credentials, the authorization. -/
def headersFor (h : HttpService) (extra : List (String × String)) : List (String × String) :=
  let auth := match h.credentials with
    | some (.basic u p) => [("authorization", "Basic " ++ base64 (u ++ ":" ++ p).toUTF8.toList)]
    | _ => []
  [("user-agent", userAgent)] ++ auth ++ extra

/-- Send a request: the status and body of the answer. -/
def send (h : HttpService) (method path : String) (extra : List (String × String))
    (body : Body) : Agent (Nat × String) := do
  let request : Request := { method, url := h.url path, headers := h.headersFor extra, body }
  let w ← get
  let (reply, network) := w.network.exchange request
  set { w with network }
  match reply with
  | .answer response =>
    Agent.debug ("HTTP status " ++ toString response.status)
    pure (response.status, response.body)
  | .timeout => throw .timeout
  | .failure reason => throw (.transport reason)

/-- The body of an answer in `2xx`, or a status fault. -/
def expectSuccess (status : Nat) (body : String) : Except Fault String :=
  if 200 ≤ status ∧ status < 300 then .ok body else .error (.status status body)

/-- A JSON document of an answer, or a serialization fault. -/
def document (body : String) : Except Fault Value :=
  (Value.read body).mapError fun e => .serialization (readErrorText e)

/-- A body that is not the struct `kind`, as a serialization fault. -/
def structFault (kind : String) : StructError → Fault
  | .malformed e => .serialization (readErrorText e)
  | .notStruct => .serialization ("invalid type, expected struct " ++ kind)
  | .duplicateField name => .serialization ("duplicate field " ++ name)
  | .tooLong => .serialization "trailing characters"

/-- Whether a legacy system record says registered: `unregistered_at` absent or `null`. -/
def legacyRegistered (body : String) : Except Fault Bool :=
  match readOneField "unregistered_at" body with
  | .ok none | .ok (some .null) => .ok true
  | .ok (some (.str _)) => .ok false
  | .ok (some _) => .error (.serialization "invalid type for unregistered_at, expected a string")
  | .error e => .error (structFault "LegacySystem" e)

/-- Whether a modern host list counts at least one host. -/
def modernRegistered (body : String) : Except Fault Bool :=
  match readOneField "total" body with
  | .ok none => .ok false
  | .ok (some (.num (.natural n))) => .ok (n > 0)
  | .ok (some _) => .error (.serialization "invalid type for total, expected u64")
  | .error e => .error (structFault "HostList" e)

/-- A pure result inside the agent. -/
def lift (r : Except Fault α) : Agent α :=
  match r with
  | .ok a => pure a
  | .error e => throw e

/-- Whether the service knows this host as registered. -/
def checkRegistration (h : HttpService) : Agent Bool :=
  Agent.inSpan ("check_registration\x7bgeneration=" ++ h.generation.name ++ "\x7d") do
    let id ← h.machineId
    match h.generation with
    | .legacy =>
      let (status, body) ← h.send "GET" ("/v1/systems/" ++ id) [] .empty
      if status == 404 then return false
      let body ← lift (expectSuccess status body)
      lift (legacyRegistered body)
    | .modern =>
      let (status, body) ← h.send "GET" ("/inventory/v1/hosts?machine_id=" ++ formEncode id) [] .empty
      let body ← lift (expectSuccess status body)
      lift (modernRegistered body)

/-- Register this host. -/
def register (h : HttpService) : Agent Unit :=
  Agent.inSpan "register" do
    let id ← h.machineId
    let payload : Value := .obj [("hostname", .str h.hostName), ("machine_id", .str id)]
    let (status, body) ← h.send "POST" "/v1/systems" [("content-type", "application/json")]
      (.text "application/json" payload.compact)
    let _ ← lift (expectSuccess status body)
    pure ()

/-- Unregister this host; `false` when the service refuses. -/
def unregister (h : HttpService) : Agent Bool :=
  Agent.inSpan ("unregister\x7bgeneration=" ++ h.generation.name ++ "\x7d") do
    let id ← h.machineId
    let path := match h.generation with
      | .legacy => "/v1/systems/" ++ id
      | .modern => "/inventory/v1/hosts/" ++ id
    let (status, body) ← h.send "DELETE" path [] .empty
    if 200 ≤ status ∧ status < 300 then pure true
    else
      Agent.debug ("Unregistration refused with status " ++ toString status ++ ": " ++ body)
      pure false

/-- A random multipart boundary. -/
def boundary : Agent String := do
  let mut parts : List String := []
  for _ in [0:4] do
    let x ← Agent.random64
    parts := parts ++ [String.ofList ((List.range 16).reverse.map fun i =>
      Text.Hex.digit ((x >>> (4 * i).toUInt64).toNat % 16))]
  pure ("-".intercalate parts)

/-- Send one archive. -/
def uploadArchive (h : HttpService) (a : Artifact) (contentType : String)
    (hint : Option Duration) : Agent UploadResponse :=
  Agent.inSpan ("upload_archive\x7bgeneration=" ++ h.generation.name ++ " size=" ++
      toString a.size ++ "\x7d") do
    if !contentType.isEmpty && !isMediaType contentType then
      throw (.invalidContentType ("invalid media type: " ++ contentType))
    let part : Part := { name := "file", fileName := some "hostwatch-archive.tar.gz"
                         contentType := if contentType.isEmpty then none else some contentType
                         data := a.bytes }
    let path ← match h.generation with
      | .legacy => do pure ("/v1/uploads/" ++ (← h.machineId))
      | .modern => pure "/ingress/v1/upload"
    let b ← boundary
    let extra := [("content-type", "multipart/form-data; boundary=" ++ b)] ++
      match hint with
      | some d => [("x-collection-duration", secondsText d)]
      | none => []
    let (status, body) ← h.send "POST" path extra (.multipart b [part])
    lift (classifyUploadStatus h.generation status body)

/-- Download the collection rules. -/
def fetchRules (h : HttpService) : Agent CollectionRules :=
  Agent.inSpan "fetch_collection_rules" do
    let (status, body) ← h.send "GET" "/v1/static/uploader.v2.json" [] .empty
    let body ← lift (expectSuccess status body)
    pure (CollectionRules.ofDocument (← lift (document body)))

end HttpService

end HostAgent.Remote
