import HostAgent.Config.Basic
import HostAgent.Archive

/-!
# `HostAgent.Remote.Status` — what an upload status means

`classifyUploadStatus` maps the status of an upload answer to a typed failure or passes it on as
a response for the caller to judge. `413` means the archive is too large in both generations;
`412` means the host is unknown, in the legacy generation only; `415` means the content type was
refused, in the modern generation only, with the body as the reason. Every other status, success
or not, is a response.
-/

namespace HostAgent.Remote

open HostAgent.Config

/-- The meaning of an upload answer's status. -/
def classifyUploadStatus (g : Generation) (status : Nat) (body : String) :
    Except Fault UploadResponse :=
  if status == 413 then .error .payloadTooLarge
  else if g == .legacy && status == 412 then .error .unregistered
  else if g == .modern && status == 415 then .error (.invalidContentType body)
  else .ok ⟨status, body⟩

end HostAgent.Remote
