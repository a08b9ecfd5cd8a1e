import HostAgent.Proofs.RunSteps

/-!
# `Proofs.RunInvariants` — invariants of whole runs, and of sequences of them

A run of the agent either unregisters, or makes sure the host is registered and then collects
and delivers. `Orchestrator.run_keeps` reduces an invariant of whole runs to the two
registration steps: whatever quiet steps keep (`Quiet`), and the registrar's `unregister` and
`ensureRegistered` keep, the run keeps, however it ends.

A caller works on a state directory by a sequence of operations: the store's own, and runs
against the scripted service (`StoreOp`). `runOps` runs them in order, each from the world the
one before left, failed or not; `runOps_keeps` carries an invariant along.
-/

namespace HostAgent

open HostAgent.Host HostAgent.Store HostAgent.Remote HostAgent.Config HostAgent.Collection
open Agent Store.StateStore

/-- One run of the agent against the scripted service: the settings, the collector, how it
waits and what schedules it. -/
structure Invocation where
  config : AgentConfig
  collector : Collector
  sleeper : Sleeper
  scheduler : Scheduler

/-- Assemble the run and run it. -/
def Invocation.act (i : Invocation) : Agent RunOutcome := do
  let o ← Orchestrator.create i.config .scripted i.collector i.sleeper i.scheduler
  o.run

/-- Something done to a state directory: one of the store's operations, or a run that uses the
directory. -/
inductive StoreOp where
  | writeMarker (m : Marker)
  | deleteMarker (m : Marker)
  | markRegistered
  | markUnregistered
  | clearRegistration
  | writeRecord (r : Record) (bytes : ByteArray)
  | deleteRecord (r : Record)
  | run (i : Invocation)

/-- An operation on the state directory `s`; a run has its state directory set to `s`. -/
def StoreOp.act (s : StateStore) : StoreOp → Agent Unit
  | .writeMarker m => s.writeMarker m
  | .deleteMarker m => s.deleteMarker m
  | .markRegistered => s.markRegistered
  | .markUnregistered => s.markUnregistered
  | .clearRegistration => s.clearRegistration
  | .writeRecord r bytes => s.writeRecord r bytes
  | .deleteRecord r => s.deleteRecord r
  | .run i => discard { i with config := { i.config with stateDir := s.dir } }.act

/-- The world after the operations, each run from the world the one before left, whether it
failed or not. -/
def runOps (s : StateStore) : List StoreOp → World → World
  | [], w => w
  | op :: ops, w => runOps s ops ((op.act s).run w).2

/-- **An invariant of every operation holds after any sequence of them.** -/
theorem runOps_keeps {P : World → Prop} (s : StateStore) :
    ∀ (ops : List StoreOp), (∀ op ∈ ops, Keeps P (op.act s)) → ∀ w, P w → P (runOps s ops w)
  | [], _, _, hw => hw
  | op :: ops, hops, _, hw =>
    runOps_keeps s ops (fun op' h => hops op' (List.mem_cons_of_mem _ h)) _
      ((hops op List.mem_cons_self).run_snd hw)

section Run

variable {P : World → Prop} (o : Orchestrator)

/-- The collection and delivery keep what quiet steps keep. -/
theorem Orchestrator.collectAndDeliver_keeps (hquiet : ∀ w w', Quiet o.store w w' → P w → P w')
    (hremote : o.remote = .scripted) (hup : o.uploader.remote = .scripted)
    (hstore : o.uploader.store = o.store) (hs : o.store.Plain)
    (hcol : o.collector.LeavesStore o.store) : Keeps P o.collectAndDeliver := by
  have hq : ∀ {α : Type} {act : Agent α}, Within (Quiet o.store) act → Keeps P act :=
    fun h => h.keeps hquiet
  have hlog : ∀ l msg, Keeps P (log l msg) := fun _ _ => hq (within_quiet_of_logOnly (logOnly_log _ _))
  have hupload : ∀ a hint, Keeps P (o.uploader.upload a hint) := by
    intro a hint
    have hs' : o.uploader.store.Plain := by rw [hstore]; exact hs
    exact hq (hstore ▸ o.uploader.upload_quiet hup hs' a hint)
  unfold Orchestrator.collectAndDeliver
  dsimp only
  refine Keeps.bind (hq (o.rules_quiet hremote)) fun rules =>
    Keeps.bind (hq (within_quiet_of_logOnly (loadRemovalConfig_logOnly _))) fun removal => ?_
  split
  on_goal 1 => refine Keeps.bind (hlog _ _) fun _ => ?_
  -- collect, finish, and keep the archive or upload it
  all_goals
    refine Keeps.bind (hlog _ _) fun _ => Keeps.bind (hq (within_quiet (hcol.1 _) fun _ _ => id))
      fun artifact => Keeps.bind (hq (within_quiet (hcol.2 _ _) fun _ _ => id)) fun archive => ?_
    split
    · exact Keeps.bind (hlog _ _) fun _ => Keeps.pure _
    · exact Keeps.bind (hupload _ _) fun _ => Keeps.pure _

/-- **A run keeps what quiet steps and the two registration steps keep.** -/
theorem Orchestrator.run_keeps (hquiet : ∀ w w', Quiet o.store w w' → P w → P w')
    (hunregister : Keeps P (o.registrar.unregister o.config.force))
    (hensure : ∀ req, Keeps P (o.registrar.ensureRegistered req))
    (hremote : o.remote = .scripted) (hup : o.uploader.remote = .scripted)
    (hstore : o.uploader.store = o.store) (hs : o.store.Plain)
    (hcol : o.collector.LeavesStore o.store) : Keeps P o.run := by
  have hcollect := o.collectAndDeliver_keeps hquiet hremote hup hstore hs hcol
  rcases hv : o.config.validate with e | ⟨⟩
  · rw [o.run_eq_throw hv]
    exact Keeps.throw _
  rw [o.run_eq_runChecked hv]
  unfold Orchestrator.runChecked
  dsimp only
  refine Keeps.bind ((within_quiet_of_logOnly (logOnly_log _ _)).keeps hquiet) fun _ => ?_
  split
  · exact Keeps.bind hunregister fun _ => Keeps.pure _
  split
  · exact Keeps.throw_bind _ _
  -- online, the registration step, which may end the run before the collection
  split
  · refine Keeps.bind (hensure _) fun decision => ?_
    split
    · exact Keeps.pure _
    · exact hcollect
  · exact hcollect

/-- **An invocation keeps what quiet steps keep and its registrar's steps keep**: the
registrar it builds talks to the scripted service and cleans up in the state directory. -/
theorem Invocation.act_keeps (i : Invocation)
    (hquiet : ∀ w w', Quiet ⟨i.config.stateDir⟩ w w' → P w → P w')
    (hreg : ∀ r : Registrar, r.remote = .scripted → r.store = ⟨i.config.stateDir⟩ →
      r.cleanup.store = r.store →
      Keeps P (r.unregister i.config.force) ∧ ∀ req, Keeps P (r.ensureRegistered req))
    (hs : (⟨i.config.stateDir⟩ : StateStore).Plain)
    (hcol : i.collector.LeavesStore ⟨i.config.stateDir⟩) : Keeps P i.act := by
  intro w hw
  obtain ⟨system, hcreate⟩ :=
    Orchestrator.create_run i.config .scripted i.collector i.sleeper i.scheduler w
  unfold Invocation.act
  rw [run_bind_ok hcreate]
  -- the orchestrator is fixed by the goal, so the store facts go in after it
  refine Orchestrator.run_keeps _ hquiet ?_ ?_ rfl rfl rfl ?_ ?_ w hw
  · exact (hreg _ rfl rfl rfl).1
  · exact (hreg _ rfl rfl rfl).2
  · exact hs
  · exact hcol

theorem Keeps.discard {α : Type} {act : Agent α} (h : Keeps P act) : Keeps P (discard act) := by
  intro w hw
  have hend := h w hw
  show Ends _ _ ((Function.const α () <$> act : Agent Unit).run w)
  rw [run_map]
  rcases hr : act.run w with ⟨_ | a, w'⟩ <;> rw [hr] at hend <;> exact hend

/-- A run on the state directory `s` keeps what quiet steps for `s` and the steps of every
registrar on `s` keep. -/
theorem StoreOp.run_keeps (s : StateStore) (i : Invocation)
    (hquiet : ∀ w w', Quiet s w w' → P w → P w')
    (hreg : ∀ r : Registrar, r.remote = .scripted → r.store = s → r.cleanup.store = s →
      Keeps P (r.unregister i.config.force) ∧ ∀ req, Keeps P (r.ensureRegistered req))
    (hs : s.Plain) (hcol : i.collector.LeavesStore s) : Keeps P ((StoreOp.run i).act s) :=
  Keeps.discard (Invocation.act_keeps _ hquiet (fun r hr hst hc => hreg r hr hst (hc.trans hst))
    hs hcol)

end Run

end HostAgent
