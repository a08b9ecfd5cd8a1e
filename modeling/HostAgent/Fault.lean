import HostAgent.Host.IoError

/-!
# `HostAgent.Fault` — everything that can stop an operation of the agent

One inductive for every failure: remote answers the agent can classify (`timeout`,
`payloadTooLarge`, `unregistered`, `invalidContentType`, `transport`, `status`), the two ends of an
upload (`uploadFailed`, `uploadAborted`), unmet preconditions (`missingCredentials`, `offline`,
`config`), and failures of local work (`state`, `collection`, `schedule`, `io`, `serialization`).

`Fault.message` is the one place where each failure gets its words; `Fault.kind` names the
constructor; `Fault.source` is the failure underneath, which file system and serialization faults
have.
-/

namespace HostAgent

open HostAgent.Host

/-- Why an operation of the agent failed. -/
inductive Fault where
  /-- The remote service did not answer in time. -/
  | timeout
  /-- The remote service refused the archive for its size. -/
  | payloadTooLarge
  /-- The remote service does not know this host. -/
  | unregistered
  /-- The archive's content type was refused, with the reason. -/
  | invalidContentType (detail : String)
  /-- No answer arrived from the remote service. -/
  | transport (detail : String)
  /-- The remote service answered with a status the call cannot use. -/
  | status (code : Nat) (body : String)
  /-- Every upload attempt failed. -/
  | uploadFailed (attempts : Nat) (logFile : String)
  /-- An upload attempt failed in a way that retrying cannot mend. -/
  | uploadAborted (reason : String) (logFile : String)
  /-- The credentials that the call needs are not configured. -/
  | missingCredentials (detail : String)
  /-- The call needs the remote service and the agent runs offline. -/
  | offline (detail : String)
  /-- The configuration cannot be used. -/
  | config (detail : String)
  /-- The local state cannot be read or written. -/
  | state (detail : String)
  /-- The collector failed. -/
  | collection (detail : String)
  /-- The periodic schedule could not be changed. -/
  | schedule (detail : String)
  /-- A file system call failed. -/
  | io (cause : IoError)
  /-- A document could not be read or written as JSON. -/
  | serialization (detail : String)
  deriving Repr, DecidableEq, Inhabited

namespace Fault

/-- The name of the kind of failure. -/
def kind : Fault → String
  | timeout => "Timeout"
  | payloadTooLarge => "PayloadTooLarge"
  | unregistered => "Unregistered"
  | invalidContentType _ => "InvalidContentType"
  | transport _ => "Transport"
  | status _ _ => "Status"
  | uploadFailed _ _ => "UploadFailed"
  | uploadAborted _ _ => "UploadAborted"
  | missingCredentials _ => "MissingCredentials"
  | offline _ => "Offline"
  | config _ => "Config"
  | state _ => "State"
  | collection _ => "Collection"
  | schedule _ => "Schedule"
  | io _ => "Io"
  | serialization _ => "Serialization"

/-- The text that reports a failure. -/
def message : Fault → String
  | timeout => "Request to remote service timed out"
  | payloadTooLarge => "Archive is too large to be accepted by the remote service"
  | unregistered => "This host is not registered with the remote service"
  | invalidContentType d => "Remote service rejected the archive content type: " ++ d
  | transport d => "Transport error: " ++ d
  | status code body => "Remote service returned status " ++ toString code ++ ": " ++ body
  | uploadFailed n log =>
    "Upload failed after " ++ toString n ++ " attempt(s). Please see " ++ log ++
      " for additional information"
  | uploadAborted reason log =>
    "Upload aborted: " ++ reason ++ ". Please see " ++ log ++ " for additional information"
  | missingCredentials d => "Missing credentials: " ++ d
  | offline d => "Not available in offline mode: " ++ d
  | config d => "Configuration error: " ++ d
  | state d => "Local state error: " ++ d
  | collection d => "Collection error: " ++ d
  | schedule d => "Scheduler error: " ++ d
  | io e => "I/O error: " ++ e.message
  | serialization d => "Serialization error: " ++ d

/-- The text of the failure underneath: the system's error of a file system fault, or the
parser's error of a serialization fault. -/
def source : Fault → Option String
  | io e => some e.message
  | serialization d => some d
  | _ => none

end Fault

end HostAgent
