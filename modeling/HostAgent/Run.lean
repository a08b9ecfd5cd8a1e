import HostAgent.Registration
import HostAgent.Upload
import HostAgent.Collection.Load
import HostAgent.Collection.Runner

/-!
# `HostAgent.Run` — one invocation of the agent

The registrar, the rule sources, a collector and the uploader are defined elsewhere; this module
puts them in order. A run:

1. refuses settings no run can succeed with (`AgentConfig.validate`);
2. when asked to unregister, unregisters and ends (`unregistered` or `unregisterRefused`);
3. refuses an offline run that should fetch rules (an offline fault);
4. online, makes sure the host is registered, registering it when asked; a host that is not
   registered ends the run (`notRegistered`);
5. takes the rules: none for a core collection, fetched when rules update online, otherwise from
   the local rules file;
6. loads the operator's exclusions and warns when there are any;
7. collects (with no branch information offline) and finishes the collection;
8. offline, ends with the archive's path (`collected`); online, uploads the artifact with its
   collection time as the hint (`uploaded`).

Every step's fault ends the run with that fault.
-/

namespace HostAgent

open HostAgent.Config HostAgent.Store HostAgent.Remote HostAgent.Collection

/-- How a run ended. -/
inductive RunOutcome where
  /-- Unregistration confirmed, or forced. -/
  | unregistered
  /-- The remote service declined to unregister. -/
  | unregisterRefused
  /-- The host is not registered and registering was not asked for. -/
  | notRegistered
  /-- An offline run: the archive stays where it was left. -/
  | collected (archive : String)
  /-- The archive was delivered. -/
  | uploaded (summary : UploadSummary)

/-- Everything one run needs. -/
structure Orchestrator where
  config : AgentConfig
  remote : Service
  collector : Collector
  store : StateStore
  registrar : Registrar
  uploader : Uploader
  hostName : String

namespace Orchestrator

/-- Assemble a run from settings, a remote service, a collector, a sleeper and a scheduler. -/
def create (c : AgentConfig) (remote : Service) (collector : Collector) (sleeper : Sleeper)
    (scheduler : Scheduler) : Agent Orchestrator := do
  let store : StateStore := ⟨c.stateDir⟩
  let cleanup : LocalCleanup := { store, cache := ⟨c.cacheDir⟩, scheduler }
  let registrar ← Registrar.create c.protocol c remote store cleanup
  let uploader ← Uploader.create c remote store sleeper
  let hostName := c.hostName (← Agent.systemHostname)
  pure { config := c, remote, collector, store, registrar, uploader, hostName }

/-- The rules of a run. -/
def rules (o : Orchestrator) : Agent (Option CollectionRules) := do
  if o.config.coreCollect then
    Agent.debug "Core collection, no rule document"
    return none
  if o.config.autoUpdate && !o.config.offline then
    let r ← o.remote.fetchRules
    Agent.debug ("Fetched rules version " ++ r.version.getD "unknown")
    return some r
  loadRules o.config.rulesFile

/-- One run. -/
def run (o : Orchestrator) : Agent RunOutcome := do
  let c := o.config
  match c.validate with
  | .error e => throw e
  | .ok () => pure ()
  Agent.debug ("Running with " ++ o.registrar.generation.name ++ " protocol (offline: " ++
    toString c.offline ++ ")")
  if c.unregister then
    return if (← o.registrar.unregister c.force) then .unregistered else .unregisterRefused
  if c.offline && c.autoUpdate then
    throw (.offline "Cannot update rules in --offline mode. Disable auto_update in config file.")
  if !c.offline then
    let decision ← o.registrar.ensureRegistered
      { forceReregister := c.reregister, register := c.register || c.reregister }
    if !decision.mayProceed then return .notRegistered
  let rules ← o.rules
  let branch : BranchInfo := if c.offline then {} else c.branchInfo
  let removal ← loadRemovalConfig c.removalFile
  if !removal.isEmpty then Agent.warn "WARNING: Excluding data from files"
  Agent.info ("Starting to collect data for " ++ o.hostName)
  let artifact ← o.collector.run { rules, removal, branch, report := removal.report }
  let archive ← o.collector.finalize rules removal
  if c.offline then
    Agent.info ("Archive saved at " ++ archive)
    return .collected archive
  let summary ← o.uploader.upload artifact artifact.duration
  pure (.uploaded summary)

end Orchestrator

end HostAgent
