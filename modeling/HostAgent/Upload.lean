import HostAgent.Remote.Service
import HostAgent.Sleeper
import HostAgent.Store.Basic
import HostAgent.Config.Basic
import HostAgent.Json.Reader

/-!
# `HostAgent.Upload` — delivering an archive with bounded retries

One loop serves both generations. Each attempt sends the same bytes and ends in a `Verdict`:

* a response in `2xx` is a success: the upload is recorded and the loop ends;
* a fault that the generation counts as fatal ends the loop at once with `uploadAborted`
  (archive too large in both; unknown host in legacy; content type refused in modern), and so
  does any fault that is neither a timeout, a transport fault nor a status;
* a timeout, a transport fault, a status fault or a response outside `2xx` is retryable: after it
  the loop waits the back-off and tries again, until `max 1 retries` attempts are used, and then
  fails with `uploadFailed`.

The legacy generation sends no content type and records the response body as the
`last_upload_results` record (its JSON, when it is JSON, is returned); the modern one sends the
archive's content type and records nothing but the marker. A success always writes the
last-upload marker.
-/

namespace HostAgent

open HostAgent.Config HostAgent.Remote HostAgent.Store HostAgent.Time

/-- What one attempt amounted to. -/
inductive Verdict where
  /-- A delivered upload. -/
  | success (response : UploadResponse)
  /-- Worth another attempt; the status, when an answer came. -/
  | retryable (status : Option Nat)
  /-- Not worth another attempt. -/
  | fatal (fault : Fault)

/-- The content type a generation sends with an archive. -/
def Config.Generation.uploadContentType (g : Generation) (a : Artifact) : String :=
  match g with
  | .legacy => ""
  | .modern => a.contentType

/-- The faults after which a generation makes no further attempt. -/
def Config.Generation.isFatal (g : Generation) : Fault → Bool
  | .payloadTooLarge => true
  | .unregistered => g == .legacy
  | .invalidContentType _ => g == .modern
  | _ => false

/-- The verdict on one attempt's result, without its reports. -/
def Config.Generation.verdict (g : Generation) : Except Fault UploadResponse → Verdict
  | .ok r => if r.isSuccess then .success r else .retryable (some r.status)
  | .error e =>
    if g.isFatal e then .fatal e
    else match e with
      | .timeout | .transport _ => .retryable none
      | .status s _ => .retryable (some s)
      | e => .fatal e

/-- The result of a delivered upload. -/
structure UploadSummary where
  /-- Attempts used, the successful one included. -/
  attempts : Nat
  response : UploadResponse
  /-- The parsed legacy response body. -/
  apiResponse : Option Json.Value

/-- Everything the upload loop needs. -/
structure Uploader where
  remote : Service
  store : StateStore
  generation : Generation
  sleeper : Sleeper
  /-- Attempts allowed, at least one. -/
  retries : Nat
  backoff : Duration
  logFile : String
  hostName : String
  accountNumber : Option String
  /-- The address to view the host at, when the run registers it. -/
  registerHint : Option String

namespace Uploader

/-- The uploader the settings give on a host of the given system name. -/
def ofConfig (c : AgentConfig) (remote : Service) (store : StateStore) (sleeper : Sleeper)
    (system : String) : Uploader :=
  { remote, store, generation := c.protocol, sleeper, retries := max c.retries 1
    backoff := c.backoff, logFile := c.loggingFile, hostName := c.hostName system
    accountNumber := c.accountNumber
    registerHint := if c.register then some c.baseUrl else none }

/-- An uploader for the settings. -/
def create (c : AgentConfig) (remote : Service) (store : StateStore) (sleeper : Sleeper) :
    Agent Uploader := do
  pure (ofConfig c remote store sleeper (← Agent.systemHostname))

/-- Report an attempt's result and give its verdict. -/
def judge (u : Uploader) (result : Except Fault UploadResponse) : Agent Verdict := do
  match result with
  | .ok r => if !r.isSuccess then Agent.debug ("Upload response body: " ++ r.body)
  | .error .timeout => if !u.generation.isFatal .timeout then Agent.warn "Upload request timed out"
  | .error (.transport msg) =>
    if !u.generation.isFatal (.transport msg) then Agent.warn ("Upload request failed: " ++ msg)
  | .error _ => pure ()
  pure (u.generation.verdict result)

/-- Record a delivered upload and report it. -/
def finish (u : Uploader) (attempts : Nat) (response : UploadResponse) : Agent UploadSummary := do
  let apiResponse ← match u.generation with
    | .legacy => do
      u.store.writeRecord .lastUploadResults response.body.toUTF8
      match Json.Value.read response.body with
      | .ok v => pure (some v)
      | .error e =>
        Agent.warn ("Upload response is not valid JSON: " ++ Collection.readErrorText e)
        pure none
    | .modern => pure none
  u.store.writeMarker .lastUpload
  match u.accountNumber with
  | some account =>
    Agent.info ("Successfully uploaded report from " ++ u.hostName ++ " to account " ++ account ++ ".")
  | none => Agent.info ("Successfully uploaded report for " ++ u.hostName ++ ".")
  if let some url := u.registerHint then
    Agent.info ("View details about this system on " ++ url)
  pure { attempts, response, apiResponse }

/-- Attempts from number `n` on, with `left` attempts remaining after this one. -/
def attemptsFrom (u : Uploader) (a : Artifact) (hint : Option Duration) :
    Nat → Nat → Agent UploadSummary
  | n, left => do
    let result ← Agent.capture (u.remote.uploadArchive a (u.generation.uploadContentType a) hint)
    match ← u.judge result with
    | .success r => u.finish n r
    | .fatal e =>
      Agent.error ("Upload attempt " ++ toString n ++ " of " ++ toString u.retries ++ " failed: " ++
        e.message)
      Agent.error ("Please see " ++ u.logFile ++ " for additional information")
      throw (.uploadAborted e.message u.logFile)
    | .retryable status =>
      let shown := match status with
        | some s => toString s
        | none => "none"
      Agent.error ("Upload attempt " ++ toString n ++ " of " ++ toString u.retries ++
        " failed! Status code: " ++ shown)
      match left with
      | 0 =>
        Agent.error "All attempts to upload have failed!"
        Agent.error ("Please see " ++ u.logFile ++ " for additional information")
        throw (.uploadFailed u.retries u.logFile)
      | left + 1 =>
        Agent.info ("Waiting " ++ toString u.backoff.secs ++ " seconds then retrying")
        u.sleeper.sleep u.backoff
        u.attemptsFrom a hint (n + 1) left

/-- Upload an archive, retrying what is worth retrying. -/
def upload (u : Uploader) (a : Artifact) (hint : Option Duration) : Agent UploadSummary := do
  Agent.debug ("Uploading " ++ toString a.size ++ " bytes (" ++ u.generation.name ++
    ") with up to " ++ toString u.retries ++ " attempt(s)")
  u.attemptsFrom a hint 1 (u.retries - 1)

end Uploader

end HostAgent
