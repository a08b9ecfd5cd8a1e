import HostAgent.Scenario.Cli

/-!
# `HostAgent.Scenario.Respond` — answering one request line

`respond` reads a request line as JSON, runs the operation it names in a fresh world, and writes
the answer as compact JSON with sorted keys, masked by `mask`. A request that names no operation,
or one that does not fit its operation, is answered `BadInput` with the reason.
-/

namespace HostAgent.Scenario

open HostAgent.Json

/-- The answer to a request. -/
def answer (req : Value) : Reading Value :=
  match req.field? "op" with
  | some (.str op) =>
    match op with
    | "auth_method" => authMethodOp req
    | "error_display" => errorDisplayOp req
    | "error_source" => errorSourceOp req
    | "upload_response" => uploadResponseOp req
    | "classify" => classifyOp req
    | "removal" => removalOp req
    | "decision" => decisionOp req
    | "protocol" => protocolOp req
    | "defaults" => pure defaultsOp
    | "fail_open" => failOpenOp req
    | "credentials" => credentialsOp req
    | "config" => configOp req
    | "config_load" => configLoadOp req
    | "store" => storeOp req
    | "schedule" => scheduleOp req
    | "load_rules" => loadRulesOp req
    | "load_removal" => loadRemovalOp req
    | "upload" => uploadOp req
    | "registration" => registrationOp req
    | "run" => runOp req
    | "collect" => collectOp req
    | "http" => httpOp req
    | "cli" => cliOp req
    | other => .error ("unknown op " ++ other)
  | _ => .error "op required"

/-- A refused request. -/
def badInput (reason : String) : Value :=
  .obj [("error", .str "BadInput"), ("message", .str reason)]

/-- Answer one request line. -/
def respond (line : String) : String :=
  let v := match Value.read line with
    | .ok req => match answer req with
      | .ok v => v
      | .error reason => badInput reason
    | .error _ => badInput "request is not a JSON document"
  mask line v.sorted.compact

end HostAgent.Scenario
