import HostAgent.Scenario.Basic
import HostAgent.Store.Identity
import HostAgent.Store.Cache
import HostAgent.Schedule

/-!
# `HostAgent.Scenario.Storage` — requests about local files

* `store` — a sequence of operations on the state directory `T/state` and the cache `T/cache`,
  each answered with its result, the listing of `T` and the events it emitted.
* `schedule` — removing a cron entry one or more times.
* `load_rules`, `load_removal` — reading rules and exclusions from local files.
-/

namespace HostAgent.Scenario

open HostAgent.Json HostAgent.Host HostAgent.Store HostAgent.Collection HostAgent.Time

/-- A world and what the request planted in it. -/
structure Stage where
  world : World
  planted : List (String × ByteArray) := []

/-- Apply preparations to a stage. -/
def Stage.plant (s : Stage) (specs : List Value) : Reading Stage := do
  let (files, planted) ← plantAll specs s.world.files
  pure { world := { s.world with files }, planted := (s.planted.filter fun (p, _) =>
    !(planted.any (·.1 == p))) ++ planted }

/-- The stage a request starts from: a fresh world with the request's preparations. -/
def Stage.ofRequest (req : Value) : Reading Stage := do
  let w ← match opt req "env" with
    | some e => applyEnv e freshWorld
    | none => pure freshWorld
  ({ world := w } : Stage).plant (← plantsOf req)

/-- The marker a request names. -/
def markerOf (v : Value) : Reading Marker :=
  match v.field? "marker" with
  | some (.str "registered") => .ok .registered
  | some (.str "unregistered") => .ok .unregistered
  | some (.str "last_upload") => .ok .lastUpload
  | _ => .error "marker must be registered, unregistered or last_upload"

/-- The record a request names. -/
def recordOf (v : Value) : Reading Record :=
  match v.field? "record" with
  | some (.str "machine_id") => .ok .machineId
  | some (.str "last_upload_results") => .ok .lastUploadResults
  | _ => .error "record must be machine_id or last_upload_results"

/-- The answer of a step that returns nothing. -/
def okJson : Value := .obj [("ok", .bool true)]

/-- Whether a text has the shape of a UUID of version 4. -/
def isUuidV4 (s : String) : Bool :=
  let cs := s.toList
  (uuidAt? cs).isSome && cs.length == 36 && cs.getD 14 ' ' == '4' &&
    "89ab".toList.contains (cs.getD 19 ' ')

/-- One operation of a `store` request: the computation and how to show its value. -/
def storeStep (s : StateStore) (cache : CacheDir) (stage : Stage) (op : Value) :
    Reading (Agent Value) := do
  let name ← reqString op "op"
  match name with
  | "write_marker" => do let m ← markerOf op; pure (do s.writeMarker m; pure okJson)
  | "delete_marker" => do let m ← markerOf op; pure (do s.deleteMarker m; pure okJson)
  | "has_marker" => do
    let m ← markerOf op
    pure (do pure (.obj [("value", .bool (← s.hasMarker m))]))
  | "marker_name" => do
    let m ← markerOf op
    pure (pure (.obj [("value", .str m.fileName), ("display", .str m.fileName),
      ("path", .str (s.markerPath m))]))
  | "write_record" => do
    let r ← recordOf op
    let bytes ← bytesOf ((op.field? "content").getD (.str ""))
    pure (do s.writeRecord r bytes; pure okJson)
  | "read_record" => do
    let r ← recordOf op
    pure (do
      match ← s.readRecord r with
      | some b => pure (.obj [("value", .str (Text.decodeLossy b)),
          ("hex", .str (Text.Hex.encode b.toList))])
      | none => pure (.obj [("value", .null)]))
  | "delete_record" => do let r ← recordOf op; pure (do s.deleteRecord r; pure okJson)
  | "record_name" => do
    let r ← recordOf op
    pure (pure (.obj [("value", .str r.fileName), ("display", .str r.fileName),
      ("path", .str (s.recordPath r))]))
  | "mark_registered" => pure (do s.markRegistered; pure okJson)
  | "mark_unregistered" => pure (do s.markUnregistered; pure okJson)
  | "clear_registration" => pure (do s.clearRegistration; pure okJson)
  | "registration_state" => pure (do pure (.obj [("value", .str (← s.registrationState).name)]))
  | "last_upload" => pure (do
      match ← s.lastUpload with
      | none => pure (.obj [("value", .null)])
      | some t =>
        let path := s.markerPath .lastUpload
        let now ← Agent.query fun tree cwd => tree.readFile cwd path
        let rel := "state/.lastupload"
        let unchanged : Bool := match now with
          | .ok b => (stage.planted.find? (·.1 == rel)).map (·.2) == some b
          | .error _ => false
        pure (.obj [("value", .str (if unchanged then t.rfc3339 else "<now>"))]))
  | "identity_load" => pure (do
      match ← MachineIdentity.load s with
      | some id => pure (.obj [("value", .str id.text)])
      | none => pure (.obj [("value", .null)]))
  | "identity_resolve" => do
    let regenerate ← flag op "regenerate"
    pure (do pure (.obj [("value", .str (← MachineIdentity.resolve s regenerate).text)]))
  | "identity_generate" =>
    pure (do pure (.obj [("uuid_v4_shape", .bool (isUuidV4 (← MachineIdentity.generate).text))]))
  | "cache_clear" => pure (do pure (.obj [("value", .ofNat (← cache.clear))]))
  | other => throw ("unknown store op " ++ other)

/-- Run the steps of a `store` request. -/
def storeSteps (s : StateStore) (cache : CacheDir) :
    Stage → List Value → Reading (List Value)
  | _, [] => .ok []
  | stage, op :: rest => do
    let name ← reqString op "op"
    let start := stage.world.journal.size
    let (result, stage) ← if name == "plant" then do
        let specs ← match opt op "plant" with
          | some (.arr specs) => pure specs
          | _ => pure []
        pure (okJson, ← stage.plant specs)
      else do
        let act ← storeStep s cache stage op
        let (r, w) := Agent.run act stage.world
        pure (outcome r id, { stage with world := w })
    let step : Value := .obj [("op", .str name), ("result", result),
      ("files", listing stage.world.files stage.planted false),
      ("logs", .ofStrings (logLines stage.world start))]
    pure (step :: (← storeSteps s cache stage rest))

/-- `store`: operations on the state directory and the cache. -/
def storeOp (req : Value) : Reading Value := do
  let stage ← Stage.ofRequest req
  let ops ← match opt req "ops" with
    | some (.arr ops) => pure ops
    | none => pure []
    | _ => throw "ops must be a list"
  let steps ← storeSteps ⟨underTmp "state"⟩ ⟨underTmp "cache"⟩ stage ops
  pure (.obj [("steps", .arr steps)])

/-- `schedule`: remove a cron entry `times` times. -/
def scheduleOp (req : Value) : Reading Value := do
  let stage ← Stage.ofRequest req
  let path := underTmp (tmpify ((← optString req "path").getD "cron.daily/hostwatch"))
  let times ← match opt req "times" with
    | some n => natBelow 1000 "times" n
    | none => pure 1
  let act : Agent (List Value) := (List.range times).mapM fun _ => do
    pure (outcome (← Agent.capture (Scheduler.cron path).removeScheduling) fun b =>
      .obj [("value", .bool b)])
  let (r, w) := Agent.run act stage.world
  let results := match r with
    | .ok rs => rs
    | .error _ => []
  pure (.obj [("results", .arr results), ("files", listing w.files stage.planted false),
    ("logs", .ofStrings (logLines w 0))])

/-- The path a loading request reads: `text` written to `T/name`, or `path`, or none. -/
def sourcePath (req : Value) (name : String) (stage : Stage) : Reading (Option String × Stage) := do
  match opt req "text" with
  | some b =>
    let bytes ← bytesOf b
    let full := underTmp name
    let files := (stage.world.files.writeFile [] full bytes 0o644).toOption.getD stage.world.files
    pure (some full, { stage with world := { stage.world with files } })
  | none =>
    match ← optString req "path" with
    | some p => pure (some (tmpify p), stage)
    | none => pure (none, stage)

/-- `load_rules`: collection rules from a local file. -/
def loadRulesOp (req : Value) : Reading Value := do
  let (path, stage) ← sourcePath req "rules.json" (← Stage.ofRequest req)
  let (r, _) := Agent.run (loadRules path) stage.world
  pure (outcome r fun
    | some rules => .obj [("value", .obj [("version", .ofOption rules.version),
        ("document", rules.document)])]
    | none => .obj [("value", .null)])

/-- `load_removal`: exclusions from a local file. -/
def loadRemovalOp (req : Value) : Reading Value := do
  let (path, stage) ← sourcePath req "remove.toml" (← Stage.ofRequest req)
  let (r, _) := Agent.run (loadRemovalConfig path) stage.world
  pure (outcome r fun removal => .obj ([("value", removal.toJson)] ++ removalSummary removal))

end HostAgent.Scenario
