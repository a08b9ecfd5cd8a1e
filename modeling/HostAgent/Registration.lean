import HostAgent.Remote.Service
import HostAgent.Store.Cache
import HostAgent.Schedule
import HostAgent.Housekeeping

/-!
# `HostAgent.Registration` — registering and unregistering the host

Both generations answer two questions: may this run go on to collect and upload
(`ensureRegistered`), and unregister this host (`unregister`). Local markers change only after the
remote service confirmed the change, with one exception: a forced unregistration cleans up
locally when the service could not confirm anything.

**Legacy.** The agent registers explicitly. It resolves the machine identifier (a forced
re-registration first drops both markers and the identifier), asks the service, brings the
markers in line with the answer (`reconcile`), and registers when asked to and when the service
does not know the host; registering needs credentials. Unregistering asks the service first; a
host the service does not know counts as unregistered.

**Modern.** The service registers hosts by itself, so every run may proceed. Unregistering asks
the service; with `force` a failed or refused request still cleans up locally and counts as done.

Local clean-up writes the unregistered marker (required), then removes the schedule (legacy
only) and clears the cache, both as housekeeping that may fail.
-/

namespace HostAgent

open HostAgent.Config HostAgent.Remote HostAgent.Store

/-- What the registration step decided. -/
inductive Decision where
  /-- The service already knows this host. -/
  | alreadyRegistered
  /-- This run registered the host. -/
  | newlyRegistered
  /-- The service registers hosts by itself. -/
  | assumed
  /-- The host is not registered and registering was not asked for. -/
  | notRegistered
  deriving Repr, DecidableEq, Inhabited

/-- Whether collection and upload may go ahead. -/
def Decision.mayProceed : Decision → Bool
  | .notRegistered => false
  | _ => true

/-- The name of a decision. -/
def Decision.name : Decision → String
  | .alreadyRegistered => "AlreadyRegistered"
  | .newlyRegistered => "NewlyRegistered"
  | .assumed => "Assumed"
  | .notRegistered => "NotRegistered"

/-- What the registration step is asked to do. -/
structure RegistrationRequest where
  /-- Drop the local markers and the identifier, then register. -/
  forceReregister : Bool := false
  /-- Register when the service does not know the host. -/
  register : Bool := false
  deriving Repr, DecidableEq, Inhabited

/-- The local side of unregistering. -/
structure LocalCleanup where
  store : StateStore
  cache : CacheDir
  scheduler : Scheduler
  deriving Inhabited

/-- Write the unregistered marker, then the housekeeping. -/
def LocalCleanup.run (c : LocalCleanup) (removeSchedule : Bool) : Agent Unit := do
  c.store.markUnregistered
  if removeSchedule then
    let _ ← Agent.failOpen "remove_scheduling" c.scheduler.removeScheduling
  let _ ← Agent.failOpen "delete_cache_files" c.cache.clear

/-- Everything the registration step needs. -/
structure Registrar where
  generation : Generation
  config : AgentConfig
  remote : Service
  store : StateStore
  cleanup : LocalCleanup
  hostName : String
  deriving Inhabited

namespace Registrar

/-- A registrar for a generation. -/
def create (g : Generation) (c : AgentConfig) (remote : Service) (store : StateStore)
    (cleanup : LocalCleanup) : Agent Registrar := do
  pure { generation := g, config := c, remote, store, cleanup
         hostName := c.hostName (← Agent.systemHostname) }

/-- Bring the markers in line with the service's answer. -/
def reconcile (r : Registrar) (registered : Bool) : Agent Unit := do
  let local_ ← r.store.registrationState
  match registered, local_ with
  | true, .registered => pure ()
  | false, .unregistered => pure ()
  | true, _ =>
    Agent.debug ("Local state was " ++ local_.name ++ ", remote reports registered")
    r.store.markRegistered
  | false, .registered =>
    Agent.warn "Local state says registered but the remote service does not know this host"
    r.store.markUnregistered
  | false, _ => pure ()

/-- Legacy: whether the run may proceed, registering when asked. -/
def ensureLegacy (r : Registrar) (req : RegistrationRequest) : Agent Decision := do
  Agent.debug "Trying registration."
  if req.forceReregister then
    r.store.clearRegistration
    Agent.debug "Re-register set, forcing registration."
  let identity ← MachineIdentity.resolve r.store req.forceReregister
  Agent.debug ("Machine-id: " ++ identity.text)
  let registered ← r.remote.checkRegistration
  r.reconcile registered
  if registered then
    if req.register then Agent.info "This host has already been registered."
    return .alreadyRegistered
  if !req.register then
    Agent.info "This host has not been registered. Use --register to register this host."
    return .notRegistered
  let _ ← resolveCredentials r.config
  r.remote.register
  r.store.markRegistered
  Agent.info ("Successfully registered " ++ r.hostName ++ " (machine id " ++ identity.text ++ ")")
  pure .newlyRegistered

/-- Whether the run may proceed. -/
def ensureRegistered (r : Registrar) (req : RegistrationRequest) : Agent Decision :=
  match r.generation with
  | .legacy => r.ensureLegacy req
  | .modern => do
    Agent.debug "Registration is handled by the remote service"
    pure .assumed

/-- Legacy: unregister; `force` cleans up locally when the service cannot be asked. -/
def unregisterLegacy (r : Registrar) (force : Bool) : Agent Bool := do
  let registered ← match ← Agent.capture r.remote.checkRegistration with
    | .ok registered => pure registered
    | .error e =>
      if !force then throw e
      Agent.warn ("Could not check registration status (" ++ e.message ++
        "), forcing local unregistration")
      r.cleanup.run true
      Agent.info ("Unregistered " ++ r.hostName ++ " locally (forced)")
      return true
  let unregistered ← if registered then r.remote.unregister else do
    Agent.info "This system is already unregistered."
    pure true
  if unregistered then
    r.cleanup.run true
    Agent.info ("Successfully unregistered " ++ r.hostName)
  else
    Agent.error ("Failed to unregister " ++ r.hostName)
  pure unregistered

/-- Modern: unregister; `force` cleans up and counts as done whatever the service says. -/
def unregisterModern (r : Registrar) (force : Bool) : Agent Bool := do
  let unregistered ← match ← Agent.capture r.remote.unregister with
    | .ok done => pure done
    | .error e =>
      if !force then throw e
      Agent.warn ("Unregistration request failed (" ++ e.message ++ "), continuing because of --force")
      pure false
  if unregistered || force then r.cleanup.run false
  if unregistered then Agent.info ("Successfully unregistered " ++ r.hostName)
  else if force then
    Agent.warn ("Unregistered " ++ r.hostName ++
      " locally without confirmation from the remote service")
  else Agent.error ("Failed to unregister " ++ r.hostName)
  pure (unregistered || force)

/-- Unregister this host. -/
def unregister (r : Registrar) (force : Bool) : Agent Bool :=
  match r.generation with
  | .legacy => r.unregisterLegacy force
  | .modern => r.unregisterModern force

end Registrar

end HostAgent
