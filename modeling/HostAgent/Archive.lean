import HostAgent.Time.Duration

/-!
# `HostAgent.Archive` — what a collection run hands to the upload

An artifact is the archive's bytes, its content type and, when known, how long collecting it
took. The same artifact is sent unchanged on every upload attempt. An upload response is the
status and body the remote service answered with; only a status in `200 ..< 300` counts as
delivered.
-/

namespace HostAgent

open HostAgent.Time

/-- A collected archive. -/
structure Artifact where
  /-- The archive's bytes. -/
  bytes : ByteArray
  /-- Its content type. -/
  contentType : String
  /-- How long the collection took, when known. -/
  duration : Option Duration := none
  deriving Inhabited

namespace Artifact

/-- The number of bytes. -/
def size (a : Artifact) : Nat := a.bytes.size

/-- Whether the archive has no bytes. -/
def isEmpty (a : Artifact) : Bool := a.bytes.size == 0

end Artifact

/-- The remote service's answer to an upload. -/
structure UploadResponse where
  status : Nat
  body : String
  deriving Repr, DecidableEq, Inhabited

/-- A response is a delivery when its status is in `200 ..< 300`. -/
def UploadResponse.isSuccess (r : UploadResponse) : Bool := 200 ≤ r.status && r.status < 300

end HostAgent
