import HostAgent.Scenario.Collect
import HostAgent.Remote.Http

/-!
# `HostAgent.Scenario.Http` — the remote service over HTTP

`http` builds the HTTP client from the settings and makes calls with it, one step a call. Each
step is answered with its result, the requests the server received during it and the events it
emitted; the events of building the client belong to the first step. The answer ends with the
listing of `T`.

The address of the test server, written `<server>` in the settings, stands for a local server
that the client cannot reach: every request ends in a transport fault, shown as
`Transport error`. A content type that is not a media type is refused before anything is sent,
shown with the reason `<mime error>`.
-/

namespace HostAgent.Scenario

open HostAgent.Json HostAgent.Host HostAgent.Store HostAgent.Collection HostAgent.Time
open HostAgent.Config HostAgent.Remote HostAgent.Http

/-- The address the settings name the test server by. -/
def serverAddress : String := "127.0.0.1:9"

/-- Check the server's scripted answers: each status in `200 ..= 999`. -/
def checkReplies (req : Value) : Reading Unit := do
  let statusOk (v : Value) : Bool := match v.field? "status" with
    | some (.num (.natural n)) => 200 ≤ n && n ≤ 999
    | _ => false
  let replies := match opt req "responses" with
    | some (.arr rs) => rs
    | _ => []
  let all := replies ++ (match opt req "default_response" with
    | some d => [d]
    | none => [])
  if all.all statusOk then pure () else throw "http response status must be 200..=999"

/-- A fault as the `http` request shows it: transport reasons and media type reasons name the
server's address or the library's wording, so only their kind is kept. -/
def httpFaultJson (f : Fault) : Value :=
  match f with
  | .transport _ => .obj [("error", .str "Transport"), ("message", .str "Transport error")]
  | .invalidContentType _ => .obj [("error", .str "InvalidContentType"),
      ("message", .str "Remote service rejected the archive content type: <mime error>")]
  | f => faultJson f

/-- The result of a call. -/
def httpOutcome (r : Except Fault Value) : Value :=
  match r with
  | .ok v => v
  | .error f => httpFaultJson f

/-- One call of an `http` request. -/
def httpCall (h : HttpService) (stage : Stage) (call : Value) : Reading (Value × Stage) := do
  let name ← reqString call "call"
  let run (act : Agent Value) : Value × Stage :=
    let (res, w) := Agent.run act stage.world
    (httpOutcome res, { stage with world := w })
  match name with
  | "check_registration" => pure (run do pure (.obj [("value", .bool (← h.checkRegistration))]))
  | "register" => pure (run do h.register; pure okJson)
  | "unregister" => pure (run do pure (.obj [("value", .bool (← h.unregister))]))
  | "upload" => do
    let bytes ← bytesOf ((opt call "bytes").getD (.str "archive"))
    let contentType := (← optString call "content_type").getD ""
    let hint ← millis call "duration_ms"
    let artifact : Artifact := { bytes, contentType := "application/gzip" }
    pure (run do
      let r ← h.uploadArchive artifact contentType hint
      pure (.obj [("status", .ofNat r.status), ("body", .str r.body),
        ("is_success", .bool r.isSuccess)]))
  | "rules" => pure (run do pure (.obj [("value", (← h.fetchRules).toJson)]))
  | "plant" => do pure (okJson, ← stage.plant (← plantsOf call))
  | other => throw ("unknown http call " ++ other)

/-- The calls of an `http` request, and the stage after them; the first step's events start at
`start`. -/
def httpCalls (h : HttpService) : Nat → Stage → List Value → Reading (List Value × Stage)
  | _, stage, [] => .ok ([], stage)
  | start, stage, call :: rest => do
    let name ← reqString call "call"
    let before := stage.world.network.received.size
    let (result, stage) ← httpCall h stage call
    let w := stage.world
    let step : Value := .obj [("call", .str name), ("result", result),
      ("requests", .arr ((w.network.received.toList.drop before).map fun _ => .null)),
      ("logs", .ofStrings (logLines w start))]
    let (more, stage) ← httpCalls h w.journal.size stage rest
    pure (step :: more, stage)

/-- `http`: calls made with the HTTP client. -/
def httpOp (req : Value) : Reading Value := do
  checkReplies req
  let serverize (v : Value) : Value := match v with
    | .obj fs => .obj (fs.map fun (k, x) => match x with
      | .str s => (k, .str (s.replace "<server>" serverAddress))
      | other => (k, other))
    | other => other
  let base := match opt req "config" with
    | some (.obj fs) => fs
    | _ => []
  let withUrl : Value := .obj (if base.any (·.1 == "base_url") then base
    else base ++ [("base_url", .str "http://<server>")])
  let c ← configOf (.obj [("config", serverize withUrl)])
  let stage ← Stage.ofRequest req
  let (built, w) := Agent.run (HttpService.create c ⟨c.stateDir⟩) stage.world
  let stage := { stage with world := w }
  match built with
  | .error e => pure (.obj [("construct", faultJson e)])
  | .ok h =>
    let calls := match opt req "calls" with
      | some (.arr cs) => cs
      | _ => []
    let (steps, stage) ← httpCalls h 0 stage calls
    pure (.obj [("steps", .arr steps), ("files", listing stage.world.files stage.planted false)])

end HostAgent.Scenario
