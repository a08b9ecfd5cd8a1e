import HostAgent.Scenario.Observe
import HostAgent.Config.Load
import HostAgent.Collection.Load
import HostAgent.Remote.Status
import HostAgent.Registration
import HostAgent.Housekeeping
import HostAgent.Host.Name

/-!
# `HostAgent.Scenario.Basic` — requests about single values

The requests that build one value of the library and show what it does: parsing a method name,
the text and source of a fault, the success range of a response, the meaning of an upload status,
the counts of exclusions, whether a decision lets a run proceed, the generation of a flag, the
defaults, a housekeeping step, credentials, and settings given as a document or read from a file.
-/

namespace HostAgent.Scenario

open HostAgent.Json HostAgent.Host HostAgent.Config HostAgent.Remote HostAgent.Collection
open HostAgent.Store

/-- A fault described by a request: its kind and the fields that kind needs. -/
def faultOf (v : Value) : Reading Fault := do
  let kind ← reqString v "kind"
  let text : Reading String := reqString v "text"
  match kind with
  | "Timeout" => pure .timeout
  | "PayloadTooLarge" => pure .payloadTooLarge
  | "Unregistered" => pure .unregistered
  | "InvalidContentType" => pure (.invalidContentType (← text))
  | "Transport" => pure (.transport (← text))
  | "Status" =>
    let body ← match v.field? "body" with
      | some (.str b) => pure b
      | none => pure ""
      | _ => throw "body must be a string"
    pure (.status (← status v "status") body)
  | "UploadFailed" =>
    let attempts ← match v.field? "attempts" with
      | some a => natBelow (Nat.pow 2 32) "attempts" a
      | none => throw "attempts required"
    pure (.uploadFailed attempts (← reqString v "log_file"))
  | "UploadAborted" => pure (.uploadAborted (← reqString v "reason") (← reqString v "log_file"))
  | "MissingCredentials" => pure (.missingCredentials (← text))
  | "Offline" => pure (.offline (← text))
  | "Config" => pure (.config (← text))
  | "State" => pure (.state (← text))
  | "Collection" => pure (.collection (← text))
  | "Schedule" => pure (.schedule (← text))
  | "Io" => pure (.io (.other (← text)))
  | "Serialization" => pure (.serialization (← text))
  | other => throw ("unknown error kind " ++ other)

/-- The generation a request names. -/
def generationOf (v : Value) (key : String) : Reading Generation :=
  match v.field? key with
  | some (.str "legacy") => .ok .legacy
  | some (.str "modern") => .ok .modern
  | _ => .error "generation must be legacy or modern"

/-- The JSON form of an exclusion report and emptiness. -/
def removalSummary (r : RemovalConfig) : List (String × Value) :=
  [("is_empty", .bool r.isEmpty), ("report", r.report.toJson)]

/-- The answer of a computation: its value's JSON, or its fault. -/
def outcome (r : Except Fault α) (f : α → Value) : Value :=
  match r with
  | .ok a => f a
  | .error e => faultJson e

/-- `auth_method`: parse a method name. -/
def authMethodOp (req : Value) : Reading Value := do
  match AuthMethod.parse (← reqString req "text") with
  | .ok m => pure (.obj [("value", .str m.name)])
  | .error e => pure (.obj [("error", .str "ParseError"), ("message", .str e)])

/-- `error_display`: the text of a fault. -/
def errorDisplayOp (req : Value) : Reading Value := do
  let f ← faultOf ((req.field? "value").getD .null)
  pure (.obj [("kind", .str f.kind), ("display", .str f.message)])

/-- `error_source`: the failure underneath a fault. -/
def errorSourceOp (req : Value) : Reading Value := do
  let f ← faultOf ((req.field? "value").getD .null)
  pure (.obj [("kind", .str f.kind), ("source", .ofOption f.source)])

/-- `upload_response`: whether a response is a delivery. -/
def uploadResponseOp (req : Value) : Reading Value := do
  let s ← status req "status"
  let body ← optString req "body"
  let r : UploadResponse := ⟨s, body.getD ""⟩
  pure (.obj [("is_success", .bool r.isSuccess)])

/-- `classify`: the meaning of an upload status. -/
def classifyOp (req : Value) : Reading Value := do
  let g ← generationOf req "generation"
  let s ← status req "status"
  let body ← optString req "body"
  pure (outcome (classifyUploadStatus g s (body.getD "")) fun r =>
    .obj [("status", .ofNat r.status), ("body", .str r.body), ("is_success", .bool r.isSuccess)])

/-- `removal`: emptiness and counts of exclusions. -/
def removalOp (req : Value) : Reading Value := do
  let r ← RemovalConfig.ofJson? ((req.field? "removal").getD (.obj []))
  pure (.obj (removalSummary r))

/-- `decision`: whether a decision lets a run proceed. -/
def decisionOp (req : Value) : Reading Value := do
  let d ← match ← reqString req "decision" with
    | "AlreadyRegistered" => pure Decision.alreadyRegistered
    | "NewlyRegistered" => pure .newlyRegistered
    | "Assumed" => pure .assumed
    | "NotRegistered" => pure .notRegistered
    | other => throw ("unknown decision " ++ other)
  pure (.obj [("may_proceed", .bool d.mayProceed)])

/-- `protocol`: the generation of the legacy flag. -/
def protocolOp (req : Value) : Reading Value := do
  let legacy ← match req.field? "legacy_upload" with
    | some (.bool b) => pure b
    | _ => throw "legacy_upload must be a boolean"
  let g := Generation.ofLegacyFlag legacy
  pure (.obj [("generation", .str g.name), ("serde", .str g.name)])

/-- `defaults`: the default values. -/
def defaultsOp : Value :=
  let removal : RemovalConfig := {}
  let rules : CollectionRules := {}
  let request : RegistrationRequest := {}
  .obj [("branch_info", ({} : BranchInfo).toJson),
    ("registration_state", .str RegistrationState.unknown.name),
    ("removal", removal.toJson), ("blacklist_report", removal.report.toJson),
    ("rules", rules.toJson), ("auth_method", .str AuthMethod.basic.name),
    ("request", .obj [("force_reregister", .bool request.forceReregister),
      ("register", .bool request.register)]),
    ("config_path", .str defaultPath)]

/-- `fail_open`: a housekeeping step that succeeds with a value or fails with a fault. -/
def failOpenOp (req : Value) : Reading Value := do
  let name ← reqString req "name"
  let step : Agent Value ← match req.field? "error" with
    | some e => do let f ← faultOf e; pure (throw f)
    | none => pure (pure ((req.field? "value").getD .null))
  let (r, w) := Agent.run (Agent.failOpen name step) freshWorld
  let result := match r with
    | .ok v => v
    | .error _ => none
  pure (.obj [("some", .bool result.isSome), ("value", result.getD .null),
    ("logs", .ofStrings (logLines w 0))])

/-- `credentials`: the credentials that settings and environment give. -/
def credentialsOp (req : Value) : Reading Value := do
  let c ← configOf req
  let w ← match opt req "env" with
    | some e => applyEnv e freshWorld
    | none => pure freshWorld
  let (r, _) := Agent.run (resolveCredentials c) w
  pure (outcome r fun
    | .basic u p => .obj [("kind", .str "basic"), ("username", .str u), ("password", .str p),
        ("debug", .str (Credentials.basic u p).debugText)]
    | .cert => .obj [("kind", .str "cert"), ("debug", .str Credentials.cert.debugText)])

/-- The answer about settings: the settings, their check, and what follows from them. -/
def configSummary (c : AgentConfig) (w : World) : Value :=
  let (host, _) := Agent.run Agent.systemHostname w
  .obj [("config", c.toJson),
    ("validate", match c.validate with
      | .ok () => .null
      | .error e => faultJson e),
    ("protocol", .str c.protocol.name), ("backoff_secs", .ofNat c.backoff.secs),
    ("http_timeout_secs", .ofNat c.httpTimeout.secs),
    ("host_name", .str (c.hostName (match host with
      | .ok h => h
      | .error _ => "localhost")))]

/-- `config`: settings given as a document. -/
def configOp (req : Value) : Reading Value := do
  pure (configSummary (← configOf req) freshWorld)

/-- `config_load`: settings read from `T/hostwatch.toml`. -/
def configLoadOp (req : Value) : Reading Value := do
  let path := underTmp "hostwatch.toml"
  let t := freshWorld.files
  let t ← if (← flag req "as_dir") then pure ((t.mkdirAll [] path 0o755).toOption.getD t)
    else match opt req "toml" with
      | some b => do pure ((t.writeFile [] path (← bytesOf b) 0o644).toOption.getD t)
      | none => pure t
  let w := { freshWorld with files := t }
  let (r, w) := Agent.run (loadOrDefault path) w
  pure (match r with
    | .ok c => configSummary c w
    | .error e => faultJson e)

end HostAgent.Scenario
