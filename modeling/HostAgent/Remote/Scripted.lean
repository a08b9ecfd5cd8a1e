import HostAgent.Remote.Script
import HostAgent.Host.World

/-!
# `HostAgent.Remote.Scripted` — the calls of the scripted remote service

Each call first counts itself and joins the history, then answers from the script in the world's
`service`:

* `checkRegistration` answers the scripted registration;
* `register` answers the scripted result and, on success, makes the host registered;
* `unregister` answers the scripted result and, when it is `true`, makes the host unregistered;
* `uploadArchive` records its arguments, then answers the next queued result, or the default one
  when the queue is empty;
* `fetchRules` answers the scripted rules.
-/

namespace HostAgent.Remote.ScriptedService

open HostAgent.Collection HostAgent.Time

/-- Change the scripted service. -/
def update (f : ScriptedService → ScriptedService) : Agent Unit :=
  modify fun w => { w with service := f w.service }

/-- The scripted service now. -/
def current : Agent ScriptedService := do pure (← get).service

/-- A scripted answer, its failure raised as a fault. -/
def answer (r : Scripted α) : Agent α :=
  match r with
  | .ok a => pure a
  | .error f => throw f.toFault

/-- Whether the service knows the host as registered. -/
def checkRegistration : Agent Bool := do
  update fun s => { s with calls.checkRegistration := s.calls.checkRegistration + 1
                           history := s.history.push (.checkRegistration s.registered) }
  answer (← current).registered

/-- Register the host. -/
def register : Agent Unit := do
  update fun s => { s with calls.register := s.calls.register + 1
                           history := s.history.push (.register s.registerResult) }
  answer (← current).registerResult
  update fun s => { s with registered := .ok true }

/-- Unregister the host; `false` when the service refuses. -/
def unregister : Agent Bool := do
  update fun s => { s with calls.unregister := s.calls.unregister + 1
                           history := s.history.push (.unregister s.unregisterResult) }
  let done ← answer (← current).unregisterResult
  if done then update fun s => { s with registered := .ok false }
  pure done

/-- Take one archive. -/
def uploadArchive (a : Artifact) (contentType : String) (hint : Option Duration) :
    Agent UploadResponse := do
  update fun s => { s with
    calls.uploadArchive := s.calls.uploadArchive + 1
    uploadCalls := s.uploadCalls.push ⟨a.bytes, contentType, hint⟩
    history := s.history.push .uploadArchive }
  let s ← current
  match s.uploads with
  | next :: rest =>
    update fun s => { s with uploads := rest }
    answer next
  | [] => answer s.defaultUpload

/-- The collection rules. -/
def fetchRules : Agent CollectionRules := do
  update fun s => { s with calls.fetchRules := s.calls.fetchRules + 1
                           history := s.history.push .fetchRules }
  answer (← current).rules

end HostAgent.Remote.ScriptedService
