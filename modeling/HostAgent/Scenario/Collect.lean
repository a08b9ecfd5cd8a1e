import HostAgent.Scenario.Remote
import HostAgent.Run

/-!
# `HostAgent.Scenario.Collect` — requests that collect

* `run` — whole agent runs, step after step on one world and one scripted service: each step
  may change the settings, the script, the environment and the files first, then assembles a run
  and runs it.
* `collect` — a command collector driven directly: runs, finishes, the archive's path.
-/

namespace HostAgent.Scenario

open HostAgent.Json HostAgent.Host HostAgent.Store HostAgent.Collection HostAgent.Time
open HostAgent.Config HostAgent.Remote

/-- The JSON form of a collector call. -/
def collectorCallJson : CollectorCall → Value
  | .run r => .obj [("call", .str "run"), ("rules", rulesJson r.rules),
      ("removal", r.removal.toJson), ("branch_info", r.branch.toJson),
      ("blacklist_report", r.report.toJson)]
  | .finalize rules removal => .obj [("call", .str "finalize"), ("rules", rulesJson rules),
      ("removal", removal.toJson)]

/-- The JSON form of how a run ended. -/
def runOutcomeJson : RunOutcome → Value
  | .unregistered => .obj [("outcome", .str "Unregistered")]
  | .unregisterRefused => .obj [("outcome", .str "UnregisterRefused")]
  | .notRegistered => .obj [("outcome", .str "NotRegistered")]
  | .collected archive => .obj [("outcome", .str "Collected"), ("archive", .str archive)]
  | .uploaded s => .obj [("outcome", .str "Uploaded"), ("summary", summaryJson s)]

/-- The collector a `run` request names: canned (the default), the shell on `T/collect.sh`, or
the settings' command line. -/
def collectorOf (spec : Value) (c : AgentConfig) : Reading (Except Fault Collector) := do
  match opt spec "kind" with
  | some (.str "command") =>
    pure (.ok (.command { program := "/bin/sh", args := [underTmp "collect.sh"], workDir := c.cacheDir }))
  | some (.str "command_line") =>
    pure ((CommandCollector.fromCommandLine c.collectorCommand c.cacheDir).map .command)
  | some (.str "fake") | none => do
    let bytes ← match opt spec "bytes" with
      | some b => bytesOf b
      | none => pure "tgz".toUTF8
    let contentType := (← optString spec "content_type").getD "application/gzip"
    let duration ← millis spec "duration_ms"
    let failRun ← optString spec "fail_run"
    let failFinalize ← optString spec "fail_finalize"
    pure (.ok (.canned
      { bytes, contentType, duration, failRun, failFinalize,
        archive := underTmp "archive.tar.gz" }))
  | _ => throw "collector kind must be fake, command or command_line"

/-- A request's base settings with a step's settings laid over them, field by field. -/
def overlay (base step : Option Value) : Value :=
  let fields (v : Option Value) : List (String × Value) := match v with
    | some (.obj fs) => fs
    | _ => []
  let b := fields base
  let s := fields step
  .obj ((b.filter fun (k, _) => !(s.any (·.1 == k))) ++ s)

/-- The steps of a `run` request. -/
def runSteps (req : Value) (collectorSpec : Value) (realSleeper measured : Bool) :
    Stage → List Value → Reading (List Value)
  | _, [] => .ok []
  | stage, step :: rest => do
    let stage ← stage.script (opt step "mock")
    let stage ← match opt step "env" with
      | some e => do pure { stage with world := ← applyEnv e stage.world }
      | none => pure stage
    let stage ← stage.plant (← plantsOf step)
    let c ← configOf (.obj [("config", overlay (opt req "config") (opt step "config"))])
    let startLog := stage.world.journal.size
    let startCalls := stage.world.collectorCalls.size
    let (sleeper, scheduler) ← if realSleeper then pure (Sleeper.real, Scheduler.cron c.scheduleFile)
      else do pure (Sleeper.recording, ← schedulerOf req c)
    let (result, w) ← match ← collectorOf collectorSpec c with
      | .error e => pure (faultJson e, stage.world)
      | .ok collector =>
        let act : Agent RunOutcome := do
          let o ← Orchestrator.create c .scripted collector sleeper scheduler
          o.run
        let (r, w) := Agent.run act stage.world
        let shown := outcome r runOutcomeJson
        if realSleeper then
          let (st, w) := Agent.run (StateStore.registrationState ⟨c.stateDir⟩) w
          let state := match st with
            | .ok s => s.name
            | .error _ => "unknown"
          pure (.obj [("run", shown), ("store_state", .str state)], w)
        else pure (shown, w)
    let stage := { stage with world := w }
    let calls := (w.collectorCalls.toList.drop startCalls).map collectorCallJson
    let entry : Value := .obj [("result", result), ("collector_calls", .arr calls),
      ("upload_calls", uploadCallsJson w.service.uploadCalls.toList measured),
      ("mock_calls", callCountsJson w.service.calls), ("sleeps", sleepsJson w),
      ("failing_scheduler_calls", .ofNat w.scheduleAttempts),
      ("files", listing w.files stage.planted false), ("logs", .ofStrings (logLines w startLog))]
    pure (entry :: (← runSteps req collectorSpec realSleeper measured stage rest))

/-- `run`: agent runs, step after step. -/
def runOp (req : Value) : Reading Value := do
  let stage ← (← Stage.ofRequest req).script (opt req "mock")
  let collectorSpec := (opt req "collector").getD (.obj [])
  let measured := match opt collectorSpec "kind" with
    | some (.str "command") | some (.str "command_line") => true
    | _ => false
  let steps := match opt req "steps" with
    | some (.arr steps) => steps
    | _ => [.obj []]
  let realSleeper ← flag req "real_sleeper"
  pure (.obj [("steps", .arr (← runSteps req collectorSpec realSleeper measured stage steps))])

/-- Exclusion counts from their JSON form; absent counts are zero. -/
def reportOf (v : Value) : Reading ExclusionReport := do
  let count (key : String) : Reading Nat := match v.field? key with
    | some n => natBelow (Nat.pow 2 64) key n
    | none => pure 0
  let obfuscate ← match v.field? "obfuscate" with
    | some (.bool b) => pure b
    | none => pure false
    | _ => throw "obfuscate must be a boolean"
  let file ← count "file"
  let command ← count "command"
  let patterns ← count "patterns"
  let keywords ← count "keywords"
  pure ⟨obfuscate, file, command, patterns, keywords⟩

/-- Rules from their JSON form: an optional version and a document. -/
def rulesOf (v : Value) : Reading CollectionRules := do
  let version ← match v.field? "version" with
    | some (.str s) => pure (some s)
    | some .null | none => pure none
    | _ => throw "rules version must be a string or null"
  pure ⟨version, (v.field? "document").getD .null⟩

/-- The rules and exclusions a `collect` step names. -/
def stepInputs (op : Value) : Reading (Option CollectionRules × RemovalConfig) := do
  let rules ← match opt op "rules" with
    | some r => do pure (some (← rulesOf r))
    | none => pure none
  let removal ← match opt op "removal" with
    | some r => match RemovalConfig.ofJson? r with
      | .ok x => pure x
      | .error e => throw ("removal: " ++ e)
    | none => pure {}
  pure (rules, removal)

/-- One step of a `collect` request. -/
def collectStep (c : CommandCollector) (stage : Stage) (op : Value) : Reading (Value × Stage) := do
  let name ← reqString op "op"
  let run (act : Agent Value) : Value × Stage :=
    let (res, w) := Agent.run act stage.world
    (outcome res id, { stage with world := w })
  match name with
  | "run" => do
    let (rules, removal) ← stepInputs op
    let branch ← match opt op "branch_info" with
      | some b => match BranchInfo.ofJson? b with
        | .ok x => pure x
        | .error e => throw ("branch_info: " ++ e)
      | none => pure {}
    let report ← match opt op "blacklist_report" with
      | some r => reportOf r
      | none => pure removal.report
    pure (run do
      let a ← (Collector.command c).run { rules, removal, branch, report }
      pure (.obj [("len", .ofNat a.size), ("bytes", .str (Text.decodeLossy a.bytes)),
        ("content_type", .str a.contentType), ("duration", .str "<elapsed>")]))
  | "finalize" => do
    let (rules, removal) ← stepInputs op
    pure (run do pure (.obj [("value", .str (← (Collector.command c).finalize rules removal))]))
  | "archive_path" => pure (.obj [("value", .str c.archivePath)], stage)
  | "plant" => do pure (okJson, ← stage.plant (← plantsOf op))
  | other => throw ("unknown collect op " ++ other)

/-- The steps of a `collect` request. -/
def collectSteps (c : CommandCollector) : Stage → List Value → Reading (List Value)
  | _, [] => .ok []
  | stage, op :: rest => do
    let name ← reqString op "op"
    let start := stage.world.journal.size
    let (result, stage) ← collectStep c stage op
    let w := stage.world
    let step : Value := .obj [("op", .str name), ("result", result),
      ("files", listing w.files stage.planted false), ("logs", .ofStrings (logLines w start))]
    pure (step :: (← collectSteps c stage rest))

/-- `collect`: a command collector driven directly. -/
def collectOp (req : Value) : Reading Value := do
  let stage ← Stage.ofRequest req
  let workDir := (← optString req "work_dir").map tmpify |>.getD (underTmp "work")
  let collector ← match opt req "command_line" with
    | some (.str line) => pure (CommandCollector.fromCommandLine (tmpify line) workDir)
    | _ => pure (.ok { program := "/bin/sh", args := [underTmp "collect.sh"], workDir })
  match collector with
  | .error e => pure (.obj [("construct", faultJson e)])
  | .ok c =>
    let ops := match opt req "ops" with
      | some (.arr ops) => ops
      | _ => []
    pure (.obj [("steps", .arr (← collectSteps c stage ops))])

end HostAgent.Scenario
