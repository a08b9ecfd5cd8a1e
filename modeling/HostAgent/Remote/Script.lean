import HostAgent.Fault
import HostAgent.Archive
import HostAgent.Collection.Rules

/-!
# `HostAgent.Remote.Script` — the state of a scripted remote service

A scripted service answers each call from its script: whether the host is registered, what
`register` and `unregister` do, a queue of upload answers followed by a default one, and the rules
it hands out. It counts every call, failed ones included, keeps the arguments of every upload, and
keeps the calls in the order it took them.

Registering successfully makes the host registered; an unregistration that the script accepts
makes it unregistered. Scripted failures become faults through `Failure.toFault`.
-/

namespace HostAgent.Remote

open HostAgent.Collection HostAgent.Time

/-- A failure the script can ask for. -/
inductive Failure where
  | timeout
  | payloadTooLarge
  | unregistered
  | invalidContentType
  | transport (detail : String)
  | status (code : Nat)
  deriving Repr, DecidableEq, Inhabited

/-- The fault a scripted failure raises. -/
def Failure.toFault : Failure → Fault
  | .timeout => .timeout
  | .payloadTooLarge => .payloadTooLarge
  | .unregistered => .unregistered
  | .invalidContentType => .invalidContentType "mock content type"
  | .transport d => .transport d
  | .status code => .status code ""

/-- A scripted answer: a value or a failure. -/
abbrev Scripted (α : Type) := Except Failure α

/-- How many times each call was made. -/
structure CallCounts where
  checkRegistration : Nat := 0
  register : Nat := 0
  unregister : Nat := 0
  uploadArchive : Nat := 0
  fetchRules : Nat := 0
  deriving Repr, DecidableEq, Inhabited

/-- The arguments of one upload. -/
structure UploadCall where
  bytes : ByteArray
  contentType : String
  durationHint : Option Duration

/-- One call the service took. The registration calls keep the answer they were given, since what
the agent does next depends on it. -/
inductive Call where
  | checkRegistration (answer : Scripted Bool)
  | register (answer : Scripted Unit)
  | unregister (answer : Scripted Bool)
  | uploadArchive
  | fetchRules
  deriving Repr

/-- A scripted remote service: its script and what it has seen. -/
structure ScriptedService where
  registered : Scripted Bool := .ok false
  registerResult : Scripted Unit := .ok ()
  unregisterResult : Scripted Bool := .ok true
  uploads : List (Scripted UploadResponse) := []
  defaultUpload : Scripted UploadResponse := .ok ⟨200, "{}"⟩
  rules : Scripted CollectionRules := .ok {}
  calls : CallCounts := {}
  uploadCalls : Array UploadCall := #[]
  /-- Every call in the order taken: the counts in `calls` forget the order. -/
  history : Array Call := #[]

instance : Inhabited ScriptedService := ⟨{}⟩

end HostAgent.Remote
