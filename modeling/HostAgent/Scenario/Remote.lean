import HostAgent.Scenario.Storage
import HostAgent.Upload
import HostAgent.Registration

/-!
# `HostAgent.Scenario.Remote` — requests that talk to the scripted service

* `upload` — one upload of an artifact through the retry loop, with waits only recorded.
* `registration` — a sequence of registration steps against one registrar, each answered with its
  result, the registration state, the listing of `T`, the calls the scripted service has counted,
  the calls to an immutable schedule and the events of the step.
-/

namespace HostAgent.Scenario

open HostAgent.Json HostAgent.Host HostAgent.Store HostAgent.Collection HostAgent.Time
open HostAgent.Config HostAgent.Remote

/-- The calls counted by the scripted service. -/
def callCountsJson (c : CallCounts) : Value :=
  .obj [("check_registration", .ofNat c.checkRegistration), ("register", .ofNat c.register),
    ("unregister", .ofNat c.unregister), ("upload_archive", .ofNat c.uploadArchive),
    ("fetch_collection_rules", .ofNat c.fetchRules)]

/-- The uploads the scripted service received; a measured duration shows as `<elapsed>`. -/
def uploadCallsJson (calls : List UploadCall) (measured : Bool) : Value :=
  let rec go : Option ByteArray → List UploadCall → List Value
    | _, [] => []
    | prev, c :: rest =>
      let hint : Value := match c.durationHint with
        | some d => if measured then .str "<elapsed>" else durationJson d
        | none => .null
      .obj [("len", .ofNat c.bytes.size),
        ("head_hex", .str (Text.Hex.encode (c.bytes.toList.take 32))),
        ("same_as_previous", .bool (prev == some c.bytes)),
        ("content_type", .str c.contentType), ("duration_hint", hint)] :: go (some c.bytes) rest
  .arr (go none calls)

/-- The waits recorded by the sleeper. -/
def sleepsJson (w : World) : Value := .arr (w.sleeps.toList.map durationJson)

/-- The answer about a delivered upload. -/
def summaryJson (s : UploadSummary) : Value :=
  .obj [("attempts", .ofNat s.attempts),
    ("response", .obj [("status", .ofNat s.response.status), ("body", .str s.response.body)]),
    ("api_response", s.apiResponse.getD .null), ("api_response_present", .bool s.apiResponse.isSome)]

/-- A stage with the request's script applied to its scripted service. -/
def Stage.script (stage : Stage) (spec : Option Value) : Reading Stage := do
  match spec with
  | some s => do
    let service ← applyScript s stage.world.service
    pure { stage with world := { stage.world with service } }
  | none => pure stage

/-- `upload`: deliver an artifact. -/
def uploadOp (req : Value) : Reading Value := do
  let c ← configOf req
  let stage ← (← Stage.ofRequest req).script (opt req "mock")
  let spec := (opt req "artifact").getD (.obj [])
  let bytes ← bytesOf ((opt spec "bytes").getD (.str "archive-bytes"))
  let contentType := (← optString spec "content_type").getD "application/vnd.hostwatch+tgz"
  let artifact : Artifact := { bytes, contentType, duration := ← millis spec "duration_ms" }
  let hint ← millis req "duration_ms"
  let act : Agent (Generation × Except Fault UploadSummary) := do
    let u ← Uploader.create c .scripted ⟨c.stateDir⟩ .recording
    pure (u.generation, ← Agent.capture (u.upload artifact hint))
  let (r, w) := Agent.run act stage.world
  let (generation, result) := match r with
    | .ok (g, res) => (g, res)
    | .error e => (c.protocol, .error e)
  let countField := if (← flag req "count_sleeps") then [("sleep_count", .ofNat w.sleeps.size)] else []
  pure (.obj ([("generation", .str generation.name),
    ("artifact", .obj [("len", .ofNat artifact.size), ("is_empty", .bool artifact.isEmpty)]),
    ("result", outcome result summaryJson),
    ("calls", uploadCallsJson w.service.uploadCalls.toList false),
    ("mock_calls", callCountsJson w.service.calls), ("sleeps", sleepsJson w),
    ("files", listing w.files stage.planted false), ("logs", .ofStrings (logLines w 0))] ++ countField))

/-- The schedule a request names: an immutable entry, or the cron entry of the settings. -/
def schedulerOf (req : Value) (c : AgentConfig) : Reading Scheduler := do
  match opt req "scheduler" with
  | some (.str "failing") => pure .immutable
  | _ => pure (.cron c.scheduleFile)

/-- One step of a `registration` request. -/
def registrationStep (r : Registrar) (stage : Stage) (op : Value) : Reading (Value × Stage) := do
  let name ← reqString op "op"
  let run (act : Agent Value) : Value × Stage :=
    let (res, w) := Agent.run act stage.world
    (outcome res id, { stage with world := w })
  match name with
  | "ensure_registered" => do
    let req : RegistrationRequest :=
      { forceReregister := ← flag op "force_reregister", register := ← flag op "register" }
    pure (run do
      let d ← r.ensureRegistered req
      pure (.obj [("decision", .str d.name), ("may_proceed", .bool d.mayProceed)]))
  | "unregister" => do
    let force ← flag op "force"
    pure (run do pure (.obj [("value", .bool (← r.unregister force))]))
  | "generation" => pure (.obj [("value", .str r.generation.name)], stage)
  | "check_registration" =>
    pure (run do pure (.obj [("value", .bool (← r.remote.checkRegistration))]))
  | "mock" => pure (okJson, ← stage.script (opt op "mock"))
  | "env" =>
    match opt op "env" with
    | some e => do pure (okJson, { stage with world := ← applyEnv e stage.world })
    | none => pure (okJson, stage)
  | "plant" => do
    let specs ← match opt op "plant" with
      | some (.arr specs) => pure specs
      | _ => pure []
    pure (okJson, ← stage.plant specs)
  | other => throw ("unknown registration op " ++ other)

/-- Run the steps of a `registration` request. -/
def registrationSteps (r : Registrar) : Stage → List Value → Reading (List Value)
  | _, [] => .ok []
  | stage, op :: rest => do
    let name ← reqString op "op"
    let start := stage.world.journal.size
    let (result, stage) ← registrationStep r stage op
    let (st, w) := Agent.run r.store.registrationState stage.world
    let stage := { stage with world := w }
    let state := match st with
      | .ok s => s.name
      | .error _ => "unknown"
    let step : Value := .obj [("op", .str name), ("result", result), ("state", .str state),
      ("files", listing w.files stage.planted false),
      ("mock_calls", callCountsJson w.service.calls),
      ("failing_scheduler_calls", .ofNat w.scheduleAttempts),
      ("logs", .ofStrings (logLines w start))]
    pure (step :: (← registrationSteps r stage rest))

/-- `registration`: registration steps against one registrar. -/
def registrationOp (req : Value) : Reading Value := do
  let c ← configOf req
  let stage ← (← Stage.ofRequest req).script (opt req "mock")
  let g ← match opt req "generation" with
    | some _ => generationOf req "generation"
    | none => pure c.protocol
  let scheduler ← schedulerOf req c
  let store : StateStore := ⟨c.stateDir⟩
  let cleanup : LocalCleanup := { store, cache := ⟨c.cacheDir⟩, scheduler }
  let (r, w) := Agent.run (Registrar.create g c .scripted store cleanup) stage.world
  let registrar ← match r with
    | .ok reg => pure reg
    | .error e => throw e.message
  let ops ← match opt req "ops" with
    | some (.arr ops) => pure ops
    | _ => pure []
  let steps ← registrationSteps registrar { stage with world := w } ops
  pure (.obj [("generation", .str g.name), ("steps", .arr steps)])

end HostAgent.Scenario
