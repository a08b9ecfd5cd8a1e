import HostAgent.Remote.Scripted
import HostAgent.Remote.Http

/-!
# `HostAgent.Remote.Service` — the remote service the agent talks to

The agent needs five calls from the remote service: whether this host is registered, register,
unregister (`false` when the service refuses), upload one archive (a status outside `2xx` is an
answer, not a fault, unless it has a meaning of its own), and fetch the collection rules. A remote
is either the scripted service of the world or a client over HTTP.
-/

namespace HostAgent.Remote

open HostAgent.Collection HostAgent.Time

/-- A remote service. -/
inductive Service where
  /-- The scripted service kept in the world. -/
  | scripted
  /-- A client over HTTP. -/
  | http (service : HttpService)
  deriving Inhabited

namespace Service

/-- Whether the service knows this host as registered. -/
def checkRegistration : Service → Agent Bool
  | .scripted => ScriptedService.checkRegistration
  | .http h => h.checkRegistration

/-- Register this host. -/
def register : Service → Agent Unit
  | .scripted => ScriptedService.register
  | .http h => h.register

/-- Unregister this host; `false` when the service refuses. -/
def unregister : Service → Agent Bool
  | .scripted => ScriptedService.unregister
  | .http h => h.unregister

/-- Send one archive with a content type and a duration hint. -/
def uploadArchive : Service → Artifact → String → Option Duration → Agent UploadResponse
  | .scripted => ScriptedService.uploadArchive
  | .http h => h.uploadArchive

/-- Download the collection rules. -/
def fetchRules : Service → Agent CollectionRules
  | .scripted => ScriptedService.fetchRules
  | .http h => h.fetchRules

end Service

end HostAgent.Remote
