import HostAgent.Fault
import HostAgent.Collection.Rules
import HostAgent.Time.Duration
import HostAgent.Text.Blank

/-!
# `HostAgent.Config.Basic` — the agent's settings

`AgentConfig` holds every setting with its default, so that a missing or partial settings file is
still a complete configuration. From it follow:

* `AgentConfig.validate` — the settings no run can succeed with: no upload attempt at all, no
  remote address when the agent is online, and unregistering while offline (checked in this
  order);
* `AgentConfig.protocol` — the protocol generation, legacy unless `legacy_upload` is off;
* `AgentConfig.backoff`, `AgentConfig.httpTimeout` — the waits, in whole seconds;
* `AgentConfig.hostName` — the name the host is reported under: the display name unless it is
  absent or blank, else the system's host name.
-/

namespace HostAgent.Config

open HostAgent.Collection HostAgent.Time

/-- The default location of the settings file. -/
def defaultPath : String := "/etc/hostwatch/hostwatch.toml"

/-- The contract revision spoken with the remote service. -/
inductive Generation where
  /-- Explicit registration, uploads keyed by machine id. -/
  | legacy
  /-- Registration assumed by the service, uploads carry a content type. -/
  | modern
  deriving Repr, DecidableEq, Inhabited

namespace Generation

/-- The generation selected by the legacy flag. -/
def ofLegacyFlag (legacy : Bool) : Generation := if legacy then .legacy else .modern

/-- The lower-case name. -/
def name : Generation → String
  | .legacy => "legacy"
  | .modern => "modern"

end Generation

/-- How the agent proves who it is. -/
inductive AuthMethod where
  /-- A user name and a password, both required. -/
  | basic
  /-- A client certificate managed outside the agent. -/
  | cert
  deriving Repr, DecidableEq, Inhabited

namespace AuthMethod

/-- The lower-case name. -/
def name : AuthMethod → String
  | .basic => "basic"
  | .cert => "cert"

/-- Read a method name in any case; the error names the text and the two choices. Case is
folded letter by letter, and only ASCII letters fold to the letters of the two names. -/
def parse (s : String) : Except String AuthMethod :=
  let folded := String.map Char.toLower s
  if folded == "basic" then .ok .basic
  else if folded == "cert" then .ok .cert
  else .error ("Invalid auth method: " ++ s ++ ". Use basic or cert.")

end AuthMethod

/-- The agent's settings. -/
structure AgentConfig where
  baseUrl : String := "https://api.hostwatch.example.com"
  legacyUpload : Bool := true
  /-- Upload attempts, at most `2 ^ 32 - 1`. -/
  retries : Nat := 1
  /-- Seconds between upload attempts. -/
  backoffSecs : Nat := 180
  /-- Seconds one request may take. -/
  httpTimeoutSecs : Nat := 120
  authMethod : AuthMethod := .basic
  username : Option String := none
  password : Option String := none
  displayName : Option String := none
  accountNumber : Option String := none
  offline : Bool := false
  autoUpdate : Bool := false
  register : Bool := false
  reregister : Bool := false
  unregister : Bool := false
  force : Bool := false
  coreCollect : Bool := false
  loggingFile : String := "/var/log/hostwatch/hostwatch.log"
  stateDir : String := "/var/lib/hostwatch"
  cacheDir : String := "/var/cache/hostwatch"
  scheduleFile : String := "/etc/cron.daily/hostwatch"
  collectorCommand : String := "/usr/libexec/hostwatch/collect"
  rulesFile : Option String := none
  removalFile : Option String := none
  branchInfo : BranchInfo := {}
  deriving Repr, Inhabited

namespace AgentConfig

/-- Refuse settings no run can succeed with. -/
def validate (c : AgentConfig) : Except Fault Unit :=
  if c.retries == 0 then .error (.config "retries must be at least 1")
  else if !c.offline && Text.isAllBlank c.baseUrl then
    .error (.config "base_url is required unless running offline")
  else if c.offline && c.unregister then
    .error (.offline "cannot unregister without contacting the remote service")
  else .ok ()

/-- The protocol generation. -/
def protocol (c : AgentConfig) : Generation := Generation.ofLegacyFlag c.legacyUpload

/-- The wait between upload attempts. -/
def backoff (c : AgentConfig) : Duration := Duration.ofSecs c.backoffSecs

/-- How long one request may take. -/
def httpTimeout (c : AgentConfig) : Duration := Duration.ofSecs c.httpTimeoutSecs

/-- The name the host is reported under, given the system's host name. -/
def hostName (c : AgentConfig) (system : String) : String :=
  match c.displayName with
  | some name => if Text.isAllBlank name then system else name
  | none => system

theorem validate_retries_zero (c : AgentConfig) (h : c.retries = 0) :
    c.validate = .error (.config "retries must be at least 1") := by
  simp [validate, h]

end AgentConfig

end HostAgent.Config
