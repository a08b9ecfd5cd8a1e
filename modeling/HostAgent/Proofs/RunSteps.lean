import HostAgent.Proofs.StoreWrites
import HostAgent.Proofs.UploadRetry
import HostAgent.Run

/-!
# `Proofs.RunSteps` — the steps of a run that leave the registration alone

A run of the agent is a sequence of steps; most of them cannot make a registration marker
appear, and none of them touches the service's registration. This module proves so step by
step, each step in the narrowest relation it stays in:

* **reading steps** only add to the journal (`World.LogOnly`): the host name, the settings'
  files, the rules and exclusions read from disk, the credentials, assembling a run
  (`Orchestrator.create_run`);
* **store steps** (`StateStore.StoreStep` with no marker allowed to appear): the housekeeping
  after unregistering (the schedule and the cache), sleeping, and a canned collector;
* **quiet steps** (`Quiet`): the remote calls that do not register or unregister, i.e. fetching
  rules and uploading, may add to the service's history, but the working directory, the
  markers and the registration stay.

The collector is a parameter of a run: `Collector.LeavesStore` is what a run needs of it, and a
canned collector has it.
-/

namespace HostAgent

open HostAgent.Host HostAgent.Store HostAgent.Remote HostAgent.Config HostAgent.Collection
open Agent

/-! ## Reading steps -/

namespace Agent

theorem nameIn_run (path : String) (w : World) : ∃ r, (nameIn path).run w = (.ok r, w) := by
  unfold nameIn
  rw [run_bind_ok (run_query _ w)]
  split
  · split <;> exact ⟨_, rfl⟩
  · exact ⟨_, rfl⟩

/-- Finding the host name reads files and the environment and changes nothing. -/
theorem systemHostname_run (w : World) : ∃ h, systemHostname.run w = (.ok h, w) := by
  unfold systemHostname
  obtain ⟨r₁, h₁⟩ := nameIn_run "/proc/sys/kernel/hostname" w
  obtain ⟨r₂, h₂⟩ := nameIn_run "/etc/hostname" w
  rw [run_bind_ok h₁]
  rcases r₁ with _ | name
  · dsimp only
    rw [run_bind_ok h₂]
    rcases r₂ with _ | name
    · dsimp only
      rw [run_bind_ok (rfl : (env? "HOSTNAME").run w = _)]
      split <;> exact ⟨_, rfl⟩
    · exact ⟨_, rfl⟩
  · exact ⟨_, rfl⟩

end Agent

theorem Config.readText_logOnly (path : String) : Within World.LogOnly (Config.readText path) := by
  unfold Config.readText
  refine Within.bind (Within.query _) fun r => Within.bind (logOnly_orIo r) fun bytes => ?_
  split
  · exact Within.pure _
  · exact Within.throw _

theorem Collection.loadRules_logOnly (path : Option String) :
    Within World.LogOnly (loadRules path) := by
  unfold loadRules
  rcases path with _ | path
  · exact Within.pure _
  refine Within.bind (Within.tryCatch (Config.readText_logOnly path) fun e => ?_) fun text => ?_
  · split <;> exact Within.throw _
  · split
    · exact Within.bind (logOnly_log _ _) fun _ => Within.pure _
    · exact Within.throw _

theorem Collection.loadRemovalConfig_logOnly (path : Option String) :
    Within World.LogOnly (loadRemovalConfig path) := by
  unfold loadRemovalConfig
  rcases path with _ | path
  · exact Within.pure _
  refine Within.bind (Within.query _) fun present => ?_
  split
  · exact Within.bind (logOnly_log _ _) fun _ => Within.pure _
  · refine Within.bind (Config.readText_logOnly path) fun text => ?_
    split
    · exact Within.pure _
    · exact Within.throw _

theorem Remote.resolveCredentials_logOnly (c : AgentConfig) :
    Within World.LogOnly (resolveCredentials c) := by
  unfold resolveCredentials
  split
  · exact Within.pure _
  · refine Within.bind (Within.env _) fun _ => Within.bind (Within.env _) fun _ => ?_
    dsimp only
    split
    · exact Within.bind (logOnly_log _ _) fun _ => Within.pure _
    · exact Within.throw _

/-- **Assembling a run changes nothing**: the orchestrator is made of the settings, the parts
given, and the host name read off the host. -/
theorem Orchestrator.create_run (c : AgentConfig) (remote : Service) (collector : Collector)
    (sleeper : Sleeper) (scheduler : Scheduler) (w : World) : ∃ system : String,
    (Orchestrator.create c remote collector sleeper scheduler).run w =
      (.ok { config := c, remote, collector, store := ⟨c.stateDir⟩
             registrar := { generation := c.protocol, config := c, remote, store := ⟨c.stateDir⟩
                            cleanup := { store := ⟨c.stateDir⟩, cache := ⟨c.cacheDir⟩, scheduler }
                            hostName := c.hostName system }
             uploader := Uploader.ofConfig c remote ⟨c.stateDir⟩ sleeper system
             hostName := c.hostName system }, w) := by
  obtain ⟨system, hsys⟩ := systemHostname_run w
  refine ⟨system, ?_⟩
  simp only [Orchestrator.create, Registrar.create, Uploader.create, run_bind, hsys, run_pure]

/-! ## Store steps -/

namespace Store.StateStore

variable {s : StateStore} {A : Marker → Prop} {α : Type}

theorem within_of_logOnly {act : Agent α} (h : Within World.LogOnly act) :
    Within (s.StoreStep A) act :=
  h.mono fun _ _ h => StoreStep.of_logOnly h

end Store.StateStore

namespace Agent

/-- A housekeeping step fails open: it stays in any relation that its body and a warning
stay in. -/
theorem failOpen_within {R : World → World → Prop} [Std.Refl R] [Trans R R R] {α : Type}
    {act : Agent α} (name : String) (hwarn : ∀ msg, Within R (warn msg)) (h : Within R act) :
    Within R (failOpen name act) :=
  Within.tryCatch (Within.bind h fun _ => Within.pure _) fun _ =>
    Within.bind (hwarn _) fun _ => Within.pure _

end Agent

open Store.StateStore

variable {s : StateStore}

/-- **Removing the schedule** stays in every frame that reading the tree, removing the entry,
counting a refused attempt and a journal line stay in. -/
theorem Scheduler.removeScheduling_within_of {R : World → World → Prop} [Std.Refl R]
    [Trans R R R] (sch : Scheduler) (hlog : ∀ l msg, Within R (log l msg))
    (hremove : ∀ path, sch = .cron path → Within R (attempt fun t cwd => t.removeFile cwd path))
    (hcount : Within R (modify fun w => { w with scheduleAttempts := w.scheduleAttempts + 1 })) :
    Within R sch.removeScheduling := by
  cases sch with
  | cron path =>
    unfold removeScheduling
    refine Within.bind (Within.query _) fun _ => ?_
    -- no entry, an entry that cannot be read, or one to remove
    split
    · exact Within.bind (hlog _ _) fun _ => Within.pure _
    · exact Within.throw _
    · refine Within.bind (hremove path rfl) fun _ => ?_
      split
      · exact Within.throw _
      · exact Within.bind (hlog _ _) fun _ => Within.pure _
  | immutable => exact Within.bind hcount fun _ => Within.throw _

theorem Scheduler.removeScheduling_within (sch : Scheduler) :
    Within (s.StoreStep (fun _ => False)) sch.removeScheduling :=
  sch.removeScheduling_within_of within_log
    (fun _ _ => within_attempt fun _ _ _ h => onlyAppear_removeFile h)
    (Within.modify fun _ => StoreStep.of_eq rfl rfl rfl)

theorem Store.CacheDir.removeEach_within (c : CacheDir) :
    ∀ (names : List String) (n : Nat), Within (s.StoreStep (fun _ => False)) (c.removeEach names n)
  | [], _ => Within.pure _
  | name :: rest, n => by
    unfold removeEach
    refine Within.bind (Within.query _) fun isDir => ?_
    dsimp only
    split
    · exact Within.bind (within_change fun _ _ _ h => onlyAppear_removeDirAll h) fun _ =>
        Within.bind (within_log _ _) fun _ => removeEach_within c rest (n + 1)
    · exact Within.bind (within_change fun _ _ _ h => onlyAppear_removeFile h) fun _ =>
        Within.bind (within_log _ _) fun _ => removeEach_within c rest (n + 1)

theorem Store.CacheDir.clear_within (c : CacheDir) :
    Within (s.StoreStep (fun _ => False)) c.clear := by
  unfold clear
  refine Within.bind (Within.query _) fun r => ?_
  dsimp only
  split
  · rw [pure_bind]
    refine Within.bind (c.removeEach_within _ 0) fun removed => ?_
    split
    · exact Within.bind (within_log _ _) fun _ => Within.pure _
    · exact Within.pure _
  · exact Within.pure _
  · intro w
    rw [run_bind_error (run_throw _ w)]
    exact StoreStep.refl w

theorem Sleeper.sleep_within (sleeper : Sleeper) (d : Time.Duration) :
    Within (s.StoreStep (fun _ => False)) (sleeper.sleep d) := by
  cases sleeper with
  | real => exact Within.modify fun w => StoreStep.of_eq rfl rfl rfl
  | recording => exact Within.modify fun w => StoreStep.of_eq rfl rfl rfl

/-- **The housekeeping after unregistering lets no marker appear**, whether it succeeds or
fails open. -/
theorem LocalCleanup.housekeeping_within (c : LocalCleanup) :
    Within (s.StoreStep (fun _ => False)) (failOpen "remove_scheduling" c.scheduler.removeScheduling) ∧
    Within (s.StoreStep (fun _ => False)) (failOpen "delete_cache_files" c.cache.clear) :=
  ⟨failOpen_within _ (fun _ => within_log _ _) c.scheduler.removeScheduling_within,
    failOpen_within _ (fun _ => within_log _ _) c.cache.clear_within⟩

/-! ## The collector -/

/-- **A collector that leaves the state directory alone**: collecting and finishing keep the
working directory and the remote service, and let no registration marker appear. -/
def Collection.Collector.LeavesStore (c : Collector) (s : StateStore) : Prop :=
  (∀ request, Within (s.StoreStep (fun _ => False)) (c.run request)) ∧
  ∀ rules removal, Within (s.StoreStep (fun _ => False)) (c.finalize rules removal)

/-- A canned collector only records its calls. -/
theorem Collection.Collector.canned_leavesStore (k : CannedCollector) (s : StateStore) :
    (Collector.canned k).LeavesStore s := by
  refine ⟨fun request => ?_, fun rules removal => ?_⟩
  · refine Within.bind (Within.modify fun w => StoreStep.of_eq rfl rfl rfl) fun _ => ?_
    split
    · exact Within.throw _
    · exact Within.pure _
  · refine Within.bind (Within.modify fun w => StoreStep.of_eq rfl rfl rfl) fun _ => ?_
    split
    · exact Within.throw _
    · exact Within.pure _

/-! ## Quiet steps -/

/-- A call of the service that neither registers nor unregisters the host. -/
def Remote.Call.Neutral : Call → Prop
  | .register _ => False
  | .unregister _ => False
  | _ => True

/-- **A quiet step** from `w` to `w'` for the state directory `s`: the working directory stays,
no registration marker appears, the service's registration stays, and the service's history
grows only by calls that neither register nor unregister. -/
structure Quiet (s : StateStore) (w w' : World) : Prop where
  cwd_eq : w'.cwd = w.cwd
  registered_eq : w'.service.registered = w.service.registered
  history : ∃ more : List Call, w'.service.history.toList = w.service.history.toList ++ more ∧
    ∀ c ∈ more, c.Neutral
  markers : s.OnlyAppear w.cwd (fun _ => False) w.files w'.files

namespace Quiet

variable {w w₁ w₂ w₃ : World}

theorem refl (w : World) : Quiet s w w := ⟨rfl, rfl, ⟨[], by simp, by simp⟩, .refl _⟩

theorem trans (h₁ : Quiet s w₁ w₂) (h₂ : Quiet s w₂ w₃) : Quiet s w₁ w₃ := by
  obtain ⟨more₁, hmore₁, hneutral₁⟩ := h₁.history
  obtain ⟨more₂, hmore₂, hneutral₂⟩ := h₂.history
  refine ⟨h₂.cwd_eq.trans h₁.cwd_eq, h₂.registered_eq.trans h₁.registered_eq,
    ⟨more₁ ++ more₂, by rw [hmore₂, hmore₁, List.append_assoc], ?_⟩,
    h₁.markers.trans (h₁.cwd_eq ▸ h₂.markers)⟩
  intro c hc
  rcases List.mem_append.mp hc with h | h
  · exact hneutral₁ c h
  · exact hneutral₂ c h

instance : Std.Refl (Quiet s) := ⟨refl⟩

instance : Trans (Quiet s) (Quiet s) (Quiet s) := ⟨trans⟩

/-- A store step that lets no registration marker appear is quiet. -/
theorem of_storeStep {A : Marker → Prop} (h : s.StoreStep A w₁ w₂)
    (hA : ∀ m, m.IsRegistration → ¬ A m) : Quiet s w₁ w₂ :=
  ⟨h.cwd_eq, by rw [h.service_eq], ⟨[], by rw [h.service_eq, List.append_nil], by simp⟩,
    h.markers.mono fun m hm hAm => hA m hm hAm⟩

/-- One neutral call that changes nothing but the service and keeps the registration. -/
theorem of_call {σ : ScriptedService} {c : Call} (hreg : σ.registered = w.service.registered)
    (hhist : σ.history = w.service.history.push c) (hc : c.Neutral) :
    Quiet s w { w with service := σ } :=
  ⟨rfl, hreg, ⟨[c], by simp [hhist], by simpa using hc⟩, .refl _⟩

end Quiet

theorem within_quiet {A : Marker → Prop} {α : Type} {act : Agent α}
    (h : Within (s.StoreStep A) act) (hA : ∀ m, m.IsRegistration → ¬ A m) : Within (Quiet s) act :=
  h.mono fun _ _ h => Quiet.of_storeStep h hA

/-! ## The remote calls -/

namespace Remote.ScriptedService

/-- The service after one status check: the call counted and recorded with its answer. -/
def afterCheck (σ : ScriptedService) : ScriptedService :=
  { σ with calls := { σ.calls with checkRegistration := σ.calls.checkRegistration + 1 }
           history := σ.history.push (.checkRegistration σ.registered) }

/-- The service after one registration: counted, recorded with its answer, and registered when
it succeeds. -/
def afterRegister (σ : ScriptedService) : ScriptedService :=
  { σ with registered := if σ.registerResult.isOk then .ok true else σ.registered
           calls := { σ.calls with register := σ.calls.register + 1 }
           history := σ.history.push (.register σ.registerResult) }

/-- The service after one unregister call: counted, recorded with its answer, and unregistered
when the answer is `true`. -/
def afterUnregister (σ : ScriptedService) : ScriptedService :=
  { σ with registered := if σ.unregisterResult = .ok true then .ok false else σ.registered
           calls := { σ.calls with unregister := σ.calls.unregister + 1 }
           history := σ.history.push (.unregister σ.unregisterResult) }

/-- Asking whether the host is registered answers the script and changes only the service. -/
theorem checkRegistration_run (w : World) :
    checkRegistration.run w =
      (w.service.registered.mapError Failure.toFault, { w with service := w.service.afterCheck }) := by
  simp [checkRegistration, update, current, run_bind, afterCheck]

theorem fetchRules_run (w : World) :
    fetchRules.run w = (w.service.rules.mapError Failure.toFault,
      { w with service := { w.service with
          calls := { w.service.calls with fetchRules := w.service.calls.fetchRules + 1 }
          history := w.service.history.push .fetchRules } }) := by
  simp [fetchRules, update, current, run_bind]

/-- Registering answers the scripted result and changes only the service. -/
theorem register_run (w : World) :
    register.run w =
      (w.service.registerResult.mapError Failure.toFault, { w with service := w.service.afterRegister }) := by
  rcases hr : w.service.registerResult with f | u <;>
    simp [register, update, current, run_bind, hr, afterRegister, Except.isOk, Except.toBool,
      Except.mapError]

/-- Unregistering answers the scripted result and changes only the service. -/
theorem unregister_run (w : World) :
    unregister.run w =
      (w.service.unregisterResult.mapError Failure.toFault, { w with service := w.service.afterUnregister }) := by
  rcases hr : w.service.unregisterResult with f | b
  · simp [unregister, update, current, run_bind, hr, afterUnregister, Except.mapError]
  · cases b <;> simp [unregister, update, current, run_bind, hr, afterUnregister, Except.mapError, Except.map]

end Remote.ScriptedService

theorem Remote.checkRegistration_quiet :
    Within (Quiet s) (Service.scripted.checkRegistration) := by
  intro w
  show Quiet s w (ScriptedService.checkRegistration.run w).2
  rw [ScriptedService.checkRegistration_run]
  exact Quiet.of_call rfl rfl trivial

theorem Remote.fetchRules_quiet : Within (Quiet s) (Service.scripted.fetchRules) := by
  intro w
  show Quiet s w (ScriptedService.fetchRules.run w).2
  rw [ScriptedService.fetchRules_run]
  exact Quiet.of_call rfl rfl trivial

theorem within_quiet_of_logOnly {α : Type} {act : Agent α} (h : Within World.LogOnly act) :
    Within (Quiet s) act :=
  h.mono fun _ _ h => Quiet.of_storeStep (A := fun _ => False) (StoreStep.of_logOnly h) fun _ _ => id

/-- **Taking the rules is quiet**: none for a core collection, fetched from the scripted
service when rules update online, else read from disk. -/
theorem Orchestrator.rules_quiet (o : Orchestrator) (hr : o.remote = .scripted) :
    Within (Quiet s) o.rules := by
  unfold rules
  split
  · exact within_quiet_of_logOnly (Within.bind (logOnly_log _ _) fun _ => Within.pure _)
  · split
    · rw [hr]
      exact Within.bind Remote.fetchRules_quiet fun _ =>
        within_quiet_of_logOnly (Within.bind (logOnly_log _ _) fun _ => Within.pure _)
    · exact within_quiet_of_logOnly (loadRules_logOnly _)

/-! ## The upload -/

namespace Uploader

variable (u : Uploader)

/-- `k` uploads to the scripted service are quiet. -/
theorem afterUploads_quiet (call : UploadCall) (k : Nat) (w : World) :
    Quiet s w { w with service := w.service.afterUploads call k } :=
  ⟨rfl, rfl, ⟨List.replicate k .uploadArchive, by simp [ScriptedService.afterUploads],
    fun c hc => by rw [(List.mem_replicate.mp hc).2]; trivial⟩, .refl _⟩

theorem uploadArchive_quiet (hr : u.remote = .scripted) (a : Artifact) (hint : Option Time.Duration) :
    Within (Quiet s) (u.remote.uploadArchive a (u.generation.uploadContentType a) hint) := by
  intro w
  rw [u.uploadArchive_run hr a hint w]
  exact afterUploads_quiet _ 1 w

theorem judge_logOnly (x : Except Fault UploadResponse) : Within World.LogOnly (u.judge x) := by
  intro w
  obtain ⟨j, hj⟩ := u.judge_run x w
  rw [hj]
  exact World.LogOnly.withJournal w j

/-- **Recording a delivered upload** stays in every frame (a reflexive and transitive relation
between worlds) that writing the response's record, writing the last-upload marker and a
journal line stay in. -/
theorem finish_within_of {R : World → World → Prop} [Std.Refl R] [Trans R R R] (u : Uploader)
    (hrecord : ∀ bytes, Within R (u.store.writeRecord .lastUploadResults bytes))
    (hmarker : Within R (u.store.writeMarker .lastUpload)) (hlog : ∀ l msg, Within R (log l msg))
    (attempts : Nat) (response : UploadResponse) : Within R (u.finish attempts response) := by
  unfold finish
  dsimp only
  -- legacy keeps the response, and warns when it is not JSON
  split
  on_goal 1 =>
    refine Within.bind (hrecord _) fun _ => ?_
    split
    on_goal 2 => refine Within.bind (hlog _ _) fun _ => ?_
  -- every branch then takes the parsed response, writes the marker and reports
  all_goals
    refine Within.bind (Within.pure _) fun _ => Within.bind hmarker fun _ => ?_
    split <;> refine Within.bind (hlog _ _) fun _ => ?_
    all_goals
      split
      · exact Within.bind (hlog _ _) fun _ => Within.pure _
      · exact Within.pure _

/-- **Recording a delivered upload writes only the last-upload marker and the response's
record.** -/
theorem finish_within (hs : u.store.Plain) (attempts : Nat) (response : UploadResponse) :
    Within (u.store.StoreStep (· = .lastUpload)) (u.finish attempts response) :=
  u.finish_within_of (fun _ w => (writeRecord_within hs _ _ w).mono fun _ _ h => h.elim)
    (writeMarker_within hs _) within_log attempts response

/-- One attempt and what follows it is quiet, when the attempts after it are. -/
theorem attemptsFrom_quiet_of (hr : u.remote = .scripted) (hs : u.store.Plain) (a : Artifact)
    (hint : Option Time.Duration) (n left : Nat)
    (hnext : ∀ left', left = left' + 1 → Within (Quiet u.store) (u.attemptsFrom a hint (n + 1) left')) :
    Within (Quiet u.store) (u.attemptsFrom a hint n left) := by
  unfold attemptsFrom
  refine Within.bind (Within.capture (u.uploadArchive_quiet hr a hint)) fun result =>
    Within.bind (within_quiet_of_logOnly (u.judge_logOnly result)) fun verdict => ?_
  have hlog : ∀ msg, Within (Quiet u.store) (Agent.error msg) := fun _ =>
    within_quiet_of_logOnly (logOnly_log _ _)
  split
  · exact within_quiet (u.finish_within hs _ _) fun m hm h => by subst h; cases hm
  · exact Within.bind (hlog _) fun _ => Within.bind (hlog _) fun _ => Within.throw _
  · refine Within.bind (hlog _) fun _ => ?_
    split
    · exact Within.bind (hlog _) fun _ => Within.bind (hlog _) fun _ => Within.throw _
    · exact Within.bind (within_quiet_of_logOnly (logOnly_log _ _)) fun _ =>
        Within.bind (within_quiet (u.sleeper.sleep_within _) fun _ _ => id) fun _ => hnext _ rfl

/-- **The upload loop is quiet**: every attempt is one upload, and a success records itself
in the last-upload marker and record only. -/
theorem attemptsFrom_quiet (hr : u.remote = .scripted) (hs : u.store.Plain) (a : Artifact)
    (hint : Option Time.Duration) (left : Nat) :
    ∀ n, Within (Quiet u.store) (u.attemptsFrom a hint n left) := by
  -- on the attempts left: the loop goes on with one fewer
  induction left with
  | zero => exact fun n => u.attemptsFrom_quiet_of hr hs a hint n 0 fun _ h => absurd h (by omega)
  | succ left ih =>
    exact fun n => u.attemptsFrom_quiet_of hr hs a hint n (left + 1) fun left' h => by
      rw [Nat.succ_inj.mp h] at ih
      exact ih (n + 1)

theorem upload_quiet (hr : u.remote = .scripted) (hs : u.store.Plain) (a : Artifact)
    (hint : Option Time.Duration) : Within (Quiet u.store) (u.upload a hint) :=
  Within.bind (within_quiet_of_logOnly (logOnly_log _ _)) fun _ =>
    u.attemptsFrom_quiet hr hs a hint _ 1

end Uploader

/-! ## The stages of a run

The `do` block of `Orchestrator.run` is compiled with its tail copied into every branch, so a
proof that splits it works on a large term. Proofs about whole runs take it in two named stages
instead: what follows settings that pass validation (`runChecked`), and the collection and
delivery that end every run past registration (`collectAndDeliver`).
-/

namespace Orchestrator

/-- The rules, the exclusions, the collection and its finish; then the archive is kept
(offline) or uploaded. -/
def collectAndDeliver (o : Orchestrator) : Agent RunOutcome := do
  let rules ← o.rules
  let branch : BranchInfo := if o.config.offline then {} else o.config.branchInfo
  let removal ← loadRemovalConfig o.config.removalFile
  if !removal.isEmpty then Agent.warn "WARNING: Excluding data from files"
  Agent.info ("Starting to collect data for " ++ o.hostName)
  let artifact ← o.collector.run { rules, removal, branch, report := removal.report }
  let archive ← o.collector.finalize rules removal
  if o.config.offline then
    Agent.info ("Archive saved at " ++ archive)
    return .collected archive
  let summary ← o.uploader.upload artifact artifact.duration
  pure (.uploaded summary)

/-- A run whose settings passed validation. -/
def runChecked (o : Orchestrator) : Agent RunOutcome := do
  Agent.debug ("Running with " ++ o.registrar.generation.name ++ " protocol (offline: " ++
    toString o.config.offline ++ ")")
  if o.config.unregister then
    return if (← o.registrar.unregister o.config.force) then .unregistered else .unregisterRefused
  if o.config.offline && o.config.autoUpdate then
    throw (.offline "Cannot update rules in --offline mode. Disable auto_update in config file.")
  if !o.config.offline then
    let decision ← o.registrar.ensureRegistered
      { forceReregister := o.config.reregister, register := o.config.register || o.config.reregister }
    if !decision.mayProceed then return .notRegistered
  o.collectAndDeliver

variable (o : Orchestrator)

theorem run_eq_throw {e : Fault} (h : o.config.validate = .error e) : o.run = throw e := by
  unfold Orchestrator.run
  dsimp only
  rw [h]
  rfl

theorem run_eq_runChecked (h : o.config.validate = .ok ()) : o.run = o.runChecked := by
  unfold Orchestrator.run
  dsimp only
  rw [h]
  rfl

end Orchestrator

end HostAgent
