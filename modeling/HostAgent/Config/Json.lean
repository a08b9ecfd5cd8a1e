import HostAgent.Config.Basic
import HostAgent.Json.Value

/-!
# `HostAgent.Config.Json` — settings as documents

`AgentConfig.toJson` writes every setting under its snake-case name, in declaration order.
`AgentConfig.ofJson?` reads settings from a document tree (a JSON document, or a TOML document
through `Toml.Value.toJson`) the way a derived decoder does:

* the document must be an object; keys that name no setting are ignored;
* a setting that is absent takes its default;
* a present setting must have its type: a string, a flag, an integer in the setting's range
  (`retries` below `2 ^ 32`, the two waits below `2 ^ 64`, branch fields signed 64-bit), `basic`
  or `cert` for the method; an optional setting may also be `null`;
* branch information is an object with both fields, or an array of the two numbers.
-/

namespace HostAgent.Config

open HostAgent.Json HostAgent.Collection

/-- The JSON form of settings. -/
def AgentConfig.toJson (c : AgentConfig) : Value :=
  .obj [("base_url", .str c.baseUrl), ("legacy_upload", .bool c.legacyUpload),
    ("retries", .ofNat c.retries), ("backoff_secs", .ofNat c.backoffSecs),
    ("http_timeout_secs", .ofNat c.httpTimeoutSecs), ("auth_method", .str c.authMethod.name),
    ("username", .ofOption c.username), ("password", .ofOption c.password),
    ("display_name", .ofOption c.displayName), ("account_number", .ofOption c.accountNumber),
    ("offline", .bool c.offline), ("auto_update", .bool c.autoUpdate),
    ("register", .bool c.register), ("reregister", .bool c.reregister),
    ("unregister", .bool c.unregister), ("force", .bool c.force),
    ("core_collect", .bool c.coreCollect), ("logging_file", .str c.loggingFile),
    ("state_dir", .str c.stateDir), ("cache_dir", .str c.cacheDir),
    ("schedule_file", .str c.scheduleFile), ("collector_command", .str c.collectorCommand),
    ("rules_file", .ofOption c.rulesFile), ("removal_file", .ofOption c.removalFile),
    ("branch_info", c.branchInfo.toJson)]

namespace Decode

/-- A decoding step: the value or why the document does not fit. -/
abbrev Result (α : Type) := Except String α

/-- A field read with `read` when present, the default otherwise. -/
def field (doc : Value) (key : String) (dflt : α) (read : String → Value → Result α) : Result α :=
  match doc.field? key with
  | some v => read key v
  | none => .ok dflt

/-- A string. -/
def string (key : String) : Value → Result String
  | .str s => .ok s
  | _ => .error ("invalid type for " ++ key ++ ", expected a string")

/-- A flag. -/
def flag (key : String) : Value → Result Bool
  | .bool b => .ok b
  | _ => .error ("invalid type for " ++ key ++ ", expected a boolean")

/-- A natural number below a bound. -/
def natBelow (bound : Nat) (key : String) : Value → Result Nat
  | .num (.natural n) =>
    if n < bound then .ok n else .error ("invalid value for " ++ key ++ ": integer out of range")
  | .num (.negative _) => .error ("invalid value for " ++ key ++ ": negative integer")
  | _ => .error ("invalid type for " ++ key ++ ", expected an integer")

/-- An optional string: `null` is absent. -/
def optString (key : String) : Value → Result (Option String)
  | .null => .ok none
  | .str s => .ok (some s)
  | _ => .error ("invalid type for " ++ key ++ ", expected a string or null")

/-- An authentication method by its exact lower-case name. -/
def authMethod (key : String) : Value → Result AuthMethod
  | .str "basic" => .ok .basic
  | .str "cert" => .ok .cert
  | .str s => .error ("unknown variant " ++ s ++ " for " ++ key ++ ", expected basic or cert")
  | _ => .error ("invalid type for " ++ key ++ ", expected a string")

/-- A signed 64-bit integer. -/
def int64 (key : String) : Value → Result Int
  | v => match v.asInt? with
    | some i => if i < 9223372036854775808 then .ok i else .error ("invalid value for " ++ key ++ ": out of range")
    | none => .error ("invalid type for " ++ key ++ ", expected an integer")

/-- Branch information: an object with both fields or an array of both. -/
def branchInfo (key : String) : Value → Result BranchInfo
  | .arr [b, l] => do
    let remoteBranch ← int64 "remote_branch" b
    let remoteLeaf ← int64 "remote_leaf" l
    pure { remoteBranch, remoteLeaf }
  | .arr _ => .error ("invalid length for " ++ key ++ ", expected 2 elements")
  | v@(.obj _) => BranchInfo.ofJson? v
  | _ => .error ("invalid type for " ++ key ++ ", expected struct BranchInfo")

end Decode

open Decode in
/-- Read settings from a document tree. -/
def AgentConfig.ofJson? (doc : Value) : Except String AgentConfig :=
  match doc with
  | .obj _ => do
    let d : AgentConfig := {}
    let baseUrl ← field doc "base_url" d.baseUrl string
    let legacyUpload ← field doc "legacy_upload" d.legacyUpload flag
    let retries ← field doc "retries" d.retries (natBelow (Nat.pow 2 32))
    let backoffSecs ← field doc "backoff_secs" d.backoffSecs (natBelow (Nat.pow 2 64))
    let httpTimeoutSecs ← field doc "http_timeout_secs" d.httpTimeoutSecs (natBelow (Nat.pow 2 64))
    let authMethod ← field doc "auth_method" d.authMethod Decode.authMethod
    let username ← field doc "username" none optString
    let password ← field doc "password" none optString
    let displayName ← field doc "display_name" none optString
    let accountNumber ← field doc "account_number" none optString
    let offline ← field doc "offline" false flag
    let autoUpdate ← field doc "auto_update" false flag
    let register ← field doc "register" false flag
    let reregister ← field doc "reregister" false flag
    let unregister ← field doc "unregister" false flag
    let force ← field doc "force" false flag
    let coreCollect ← field doc "core_collect" false flag
    let loggingFile ← field doc "logging_file" d.loggingFile string
    let stateDir ← field doc "state_dir" d.stateDir string
    let cacheDir ← field doc "cache_dir" d.cacheDir string
    let scheduleFile ← field doc "schedule_file" d.scheduleFile string
    let collectorCommand ← field doc "collector_command" d.collectorCommand string
    let rulesFile ← field doc "rules_file" none optString
    let removalFile ← field doc "removal_file" none optString
    let branchInfo ← field doc "branch_info" d.branchInfo Decode.branchInfo
    pure ⟨baseUrl, legacyUpload, retries, backoffSecs, httpTimeoutSecs, authMethod, username,
      password, displayName, accountNumber, offline, autoUpdate, register, reregister, unregister,
      force, coreCollect, loggingFile, stateDir, cacheDir, scheduleFile, collectorCommand,
      rulesFile, removalFile, branchInfo⟩
  | _ => .error "invalid type, expected struct AgentConfig"

end HostAgent.Config
