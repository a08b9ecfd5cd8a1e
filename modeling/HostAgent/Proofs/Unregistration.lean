import HostAgent.Proofs.MarkerExclusion

/-!
# `Proofs.Unregistration` — what unregistering does, generation by generation

Unregistering asks the service, and when the service confirms (or `force` lets the agent do
without it) runs the local clean-up. Each generation's unregistration is stated here as what its
run equals, up to the lines it adds to the journal (`World.LogOnly`):

* `LocalCleanup.run_run` — **clean-up answers what its marker write answers**: the unregistered
  marker is written first; the schedule removal (when asked for) and the cache clearing then
  run from the world it left, and their failures are swallowed (`LocalCleanup.Reports` names
  this outcome, reported as `true`);
* `unregisterModern_contract` — the modern generation makes one unregister call and no status
  check, cleans up exactly when the service said `true` or `force` is set, and otherwise leaves
  every local thing as it was; it never touches the schedule;
* `unregisterLegacy_contract` — the legacy generation checks first and calls unregister only
  for a host the service knows; it cleans up when the service confirms, when it does not know
  the host, or when the check failed under `force`; a refusal or a failed call leaves every local
  thing as it was.

`World.NoCalls` says that no call reached the service or a collector: the local steps (the
store, the schedule, the cache, the journal) all stay in it.
-/

namespace HostAgent

open HostAgent.Host HostAgent.Store HostAgent.Remote HostAgent.Config
open Agent

/-! ## Steps that make no call -/

/-- From `w` to `w'` no call reached the service or a collector. -/
def World.NoCalls (w w' : World) : Prop :=
  w'.service = w.service ∧ w'.collectorCalls = w.collectorCalls

namespace World.NoCalls

theorem refl (w : World) : w.NoCalls w := ⟨rfl, rfl⟩

theorem trans {w₁ w₂ w₃ : World} (h₁ : w₁.NoCalls w₂) (h₂ : w₂.NoCalls w₃) : w₁.NoCalls w₃ :=
  ⟨h₂.1.trans h₁.1, h₂.2.trans h₁.2⟩

instance : Std.Refl World.NoCalls := ⟨refl⟩

instance : Trans World.NoCalls World.NoCalls World.NoCalls := ⟨trans⟩

theorem of_logOnly {w w' : World} (h : w.LogOnly w') : w.NoCalls w' := by
  unfold World.LogOnly at h
  rw [h]
  exact refl w

end World.NoCalls

namespace Agent

variable {α : Type}

theorem noCalls_of_logOnly {act : Agent α} (h : Within World.LogOnly act) :
    Within World.NoCalls act :=
  h.mono fun _ _ => World.NoCalls.of_logOnly

theorem noCalls_log (l : Level) (m : String) : Within World.NoCalls (log l m) :=
  noCalls_of_logOnly (logOnly_log l m)

theorem noCalls_attempt (f : FileTree → Location → Except IoError FileTree) :
    Within World.NoCalls (attempt f) := by
  intro w
  rw [run_attempt]
  split <;> exact ⟨rfl, rfl⟩

theorem noCalls_change (f : FileTree → Location → Except IoError FileTree) :
    Within World.NoCalls (change f) := by
  intro w
  rw [run_change]
  split <;> exact ⟨rfl, rfl⟩

theorem noCalls_random64 : Within World.NoCalls random64 := by
  intro w
  -- reduce the projections first: comparing the drawn entropy with the old one is costly
  rw [run_random64]
  dsimp only
  exact ⟨rfl, rfl⟩

end Agent

section NoCalls

theorem Store.StateStore.writeAtomic_noCalls (s : StateStore) (path : String) (bytes : ByteArray) :
    Within World.NoCalls (s.writeAtomic path bytes) :=
  s.writeAtomic_within_of (noCalls_change _) (Within.bind noCalls_random64 fun _ => Within.pure _)
    (fun _ => noCalls_attempt _) (fun _ => noCalls_attempt _) (fun _ => noCalls_attempt _)
    (fun _ => noCalls_attempt _) fun _ => noCalls_attempt _

theorem Store.StateStore.removeIfExists_noCalls (path : String) :
    Within World.NoCalls (StateStore.removeIfExists path) :=
  StateStore.removeIfExists_within_of (noCalls_attempt _)

theorem Store.StateStore.writeMarker_noCalls (s : StateStore) (m : Marker) :
    Within World.NoCalls (s.writeMarker m) :=
  s.writeMarker_within_of (fun _ _ => StateStore.removeIfExists_noCalls _)
    (fun _ => s.writeAtomic_noCalls _ _) noCalls_log

theorem Scheduler.removeScheduling_noCalls (sch : Scheduler) :
    Within World.NoCalls sch.removeScheduling :=
  sch.removeScheduling_within_of noCalls_log (fun _ _ => noCalls_attempt _)
    (Within.modify fun _ => ⟨rfl, rfl⟩)

theorem Store.CacheDir.removeEach_noCalls (c : CacheDir) :
    ∀ (names : List String) (n : Nat), Within World.NoCalls (c.removeEach names n)
  | [], _ => Within.pure _
  | name :: rest, n => by
    unfold removeEach
    refine Within.bind (Within.query _) fun _ => ?_
    dsimp only
    split
    · exact Within.bind (noCalls_change _) fun _ =>
        Within.bind (noCalls_log _ _) fun _ => removeEach_noCalls c rest (n + 1)
    · exact Within.bind (noCalls_change _) fun _ =>
        Within.bind (noCalls_log _ _) fun _ => removeEach_noCalls c rest (n + 1)

theorem Store.CacheDir.clear_noCalls (c : CacheDir) : Within World.NoCalls c.clear := by
  unfold clear
  refine Within.bind (Within.query _) fun _ => ?_
  dsimp only
  split
  · rw [pure_bind]
    refine Within.bind (c.removeEach_noCalls _ 0) fun _ => ?_
    split
    · exact Within.bind (noCalls_log _ _) fun _ => Within.pure _
    · exact Within.pure _
  · exact Within.pure _
  · intro w
    rw [run_bind_error (run_throw _ w)]
    exact World.NoCalls.refl w

/-- Clean-up makes no call: it writes a marker and does housekeeping on the host. -/
theorem LocalCleanup.run_noCalls (c : LocalCleanup) (removeSchedule : Bool) :
    Within World.NoCalls (c.run removeSchedule) := by
  have hclear := failOpen_within "delete_cache_files" (fun _ => noCalls_log _ _) c.cache.clear_noCalls
  unfold LocalCleanup.run
  refine Within.bind (c.store.writeMarker_noCalls _) fun _ => ?_
  dsimp only
  split
  · exact Within.bind (failOpen_within _ (fun _ => noCalls_log _ _)
      c.scheduler.removeScheduling_noCalls) fun _ => Within.bind hclear fun _ => Within.pure _
  · exact Within.bind hclear fun _ => Within.pure _

end NoCalls

/-! ## Clean-up -/

namespace LocalCleanup

variable (c : LocalCleanup)

/-- A housekeeping step never fails: it answers its step's value, or `none` after a fault. -/
theorem run_failOpen {α : Type} (name : String) (act : Agent α) (w : World) :
    (failOpen name act).run w =
      (.ok (match (act.run w).1 with
        | .ok a => some a
        | .error _ => none), ((failOpen name act).run w).2) := by
  unfold failOpen
  rcases h : act.run w with ⟨e | a, w'⟩
  · rw [run_tryCatch_error (run_bind_error h _)]
    rfl
  · rw [run_tryCatch_ok (run_bind_ok h _)]

/-- What clean-up leaves once its marker is written: the schedule removal when asked for, then
the cache clearing, each from the world the one before left. -/
def housekept (removeSchedule : Bool) (w : World) : World :=
  let w' := if removeSchedule then ((failOpen "remove_scheduling" c.scheduler.removeScheduling).run w).2
    else w
  ((failOpen "delete_cache_files" c.cache.clear).run w').2

/-- **Clean-up answers what its marker write answers.** The unregistered marker is written
first; when that fails nothing else runs, and otherwise the housekeeping runs from the world it
left and clean-up succeeds whatever the housekeeping met. -/
theorem run_run (removeSchedule : Bool) (w : World) :
    (c.run removeSchedule).run w =
      match c.store.markUnregistered.run w with
      | (.ok (), w₁) => (.ok (), c.housekept removeSchedule w₁)
      | (.error e, w₁) => (.error e, w₁) := by
  unfold LocalCleanup.run
  rcases hm : c.store.markUnregistered.run w with ⟨e | u, w₁⟩
  · exact run_bind_error hm _
  · rw [run_bind_ok hm]
    cases removeSchedule with
    | false =>
      show (failOpen "delete_cache_files" c.cache.clear >>= fun _ => pure ()).run w₁ = _
      rw [run_bind_ok (run_failOpen _ _ _)]
      rfl
    | true =>
      show (failOpen "remove_scheduling" c.scheduler.removeScheduling >>= fun _ =>
        failOpen "delete_cache_files" c.cache.clear >>= fun _ => pure ()).run w₁ = _
      rw [run_bind_ok (run_failOpen _ _ _), run_bind_ok (run_failOpen _ _ _)]
      rfl

/-- `out` is what clean-up from `w` gives, reported as `true`: the fault of its marker write, in
the world that write left, or `true` in the world the housekeeping left, with lines added to the
journal. -/
def Reports (removeSchedule : Bool) (w : World) (out : Except Fault Bool × World) : Prop :=
  match c.store.markUnregistered.run w with
  | (.ok (), w₁) => out.1 = .ok true ∧ (c.housekept removeSchedule w₁).LogOnly out.2
  | (.error e, w₁) => out = (.error e, w₁)

/-- Clean-up, a line in the journal, and `true`. -/
theorem reports_run (removeSchedule : Bool) (l : Level) (msg : String) (w : World) :
    c.Reports removeSchedule w ((do c.run removeSchedule; log l msg; pure true : Agent Bool).run w) := by
  unfold Reports
  rw [run_bind, run_run]
  rcases c.store.markUnregistered.run w with ⟨e | u, w₁⟩
  · rfl
  · refine ⟨rfl, ?_⟩
    show _ = _
    rfl

/-- The same after a line in the journal first. -/
theorem reports_after_log (removeSchedule : Bool) (l l' : Level) (msg msg' : String) (w : World) :
    ∃ w', w.LogOnly w' ∧ c.Reports removeSchedule w'
      ((do log l msg; c.run removeSchedule; log l' msg'; pure true : Agent Bool).run w) := by
  obtain ⟨w', hrun, hlog⟩ := run_log_logOnly l msg w
  refine ⟨w', hlog, ?_⟩
  rw [run_bind_ok hrun]
  exact c.reports_run removeSchedule l' msg' w'

/-- A reported clean-up made no call. -/
theorem Reports.noCalls {removeSchedule : Bool} {w : World} {out : Except Fault Bool × World}
    (h : c.Reports removeSchedule w out) : w.NoCalls out.2 := by
  have hrun := c.run_noCalls removeSchedule w
  rw [run_run] at hrun
  unfold Reports at h
  rcases hm : c.store.markUnregistered.run w with ⟨e | u, w₁⟩ <;> rw [hm] at h hrun
  · rw [h]
    exact hrun
  · exact hrun.trans (World.NoCalls.of_logOnly h.2)

end LocalCleanup

/-! ## The modern generation -/

section Modern

variable (r : Registrar) (force : Bool) (w : World)

theorem Registrar.unregister_scripted_run (hr : r.remote = .scripted) :
    r.remote.unregister.run w =
      (w.service.unregisterResult.mapError Failure.toFault, { w with service := w.service.afterUnregister }) := by
  rw [hr]
  exact ScriptedService.unregister_run w

/-- The modern generation cleans up when the service said `true` or `force` is set: after its
call, and after a warning when the call failed. -/
theorem Registrar.unregisterModern_cleans (hr : r.remote = .scripted)
    (h : w.service.unregisterResult = .ok true ∨ force = true) :
    ∃ w₂, ({ w with service := w.service.afterUnregister } : World).LogOnly w₂ ∧
      r.cleanup.Reports false w₂ ((r.unregisterModern force).run w) := by
  unfold Registrar.unregisterModern
  rw [run_bind_ok (run_capture (r.unregister_scripted_run w hr))]
  rcases hres : w.service.unregisterResult with f | b <;> rw [hres] at h
  · -- the call failed: only `force` goes on, with a warning first
    cases force
    · simp at h
    simp only [Except.mapError, Bool.not_true, Bool.false_eq_true, Bool.or_true, ↓reduceIte,
      pure_bind]
    exact r.cleanup.reports_after_log false .warn .warn _ _ _
  · refine ⟨_, World.LogOnly.refl _, ?_⟩
    cases b <;> cases force
    · simp at h
    all_goals
      simp only [Except.mapError, Bool.true_or, Bool.or_true, Bool.false_eq_true, ↓reduceIte,
        pure_bind]
      exact r.cleanup.reports_run false _ _ _

/-- Without `force`, a refusal is reported as `false` and leaves all but the service as it was. -/
theorem Registrar.unregisterModern_refused (hr : r.remote = .scripted)
    (hres : w.service.unregisterResult = .ok false) :
    ((r.unregisterModern false).run w).1 = .ok false ∧
      ({ w with service := w.service.afterUnregister } : World).LogOnly
        ((r.unregisterModern false).run w).2 := by
  unfold Registrar.unregisterModern
  rw [run_bind_ok (run_capture (r.unregister_scripted_run w hr)), hres]
  simp only [Except.mapError, Bool.or_false, Bool.false_eq_true, ↓reduceIte, pure_bind]
  obtain ⟨w', hrun, hlog⟩ := run_error ("Failed to unregister " ++ r.hostName)
    { w with service := w.service.afterUnregister }
  rw [run_bind_ok hrun]
  exact ⟨rfl, hlog⟩

/-- Without `force`, a failed call ends with its fault and leaves all but the service as it
was. -/
theorem Registrar.unregisterModern_fails (hr : r.remote = .scripted) {f : Failure}
    (hres : w.service.unregisterResult = .error f) :
    (r.unregisterModern false).run w = (.error f.toFault, { w with service := w.service.afterUnregister }) := by
  unfold Registrar.unregisterModern
  rw [run_bind_ok (run_capture (r.unregister_scripted_run w hr)), hres]
  rfl

/-- Whatever happens, the service saw exactly the one unregister call. -/
theorem Registrar.unregisterModern_noCalls (hr : r.remote = .scripted) :
    ({ w with service := w.service.afterUnregister } : World).NoCalls ((r.unregisterModern force).run w).2 := by
  by_cases hc : w.service.unregisterResult = .ok true ∨ force = true
  · obtain ⟨w₂, hlog, hrep⟩ := r.unregisterModern_cleans force w hr hc
    exact (World.NoCalls.of_logOnly hlog).trans (LocalCleanup.Reports.noCalls _ hrep)
  · rw [not_or, Bool.not_eq_true] at hc
    obtain ⟨hres, rfl⟩ := hc
    rcases h : w.service.unregisterResult with f | b
    · rw [r.unregisterModern_fails w hr h]
      exact World.NoCalls.refl _
    · have hb : b = false := by
        cases b
        · rfl
        · exact absurd h hres
      subst hb
      exact World.NoCalls.of_logOnly (r.unregisterModern_refused w hr h).2

/-- **Unregistering in the modern generation.** One unregister call and no status check; the
clean-up, without the schedule, runs exactly when the service said `true` or `force` is set, and
its marker write decides the answer; otherwise the answer is the service's refusal or fault, and
nothing but the service changed. Which scheduler the clean-up holds makes no difference. -/
theorem unregisterModern_contract (r : Registrar) (hr : r.remote = .scripted) (force : Bool)
    (w : World) :
    let res := w.service.unregisterResult
    let w₁ : World := { w with service := w.service.afterUnregister }
    let out := (r.unregisterModern force).run w
    out.2.service.history.toList = w.service.history.toList ++ [.unregister res] ∧
    ((res = .ok true ∨ force = true) → ∃ w₂, w₁.LogOnly w₂ ∧ r.cleanup.Reports false w₂ out) ∧
    (res = .ok false → force = false → out.1 = .ok false ∧ w₁.LogOnly out.2) ∧
    (∀ f, res = .error f → force = false → out.1 = .error f.toFault ∧ w₁.LogOnly out.2) ∧
    ∀ sch : Scheduler,
      ({ r with cleanup := { r.cleanup with scheduler := sch } }).unregisterModern force =
        r.unregisterModern force := by
  intro res w₁ out
  refine ⟨?_, r.unregisterModern_cleans force w hr, ?_, ?_, fun _ => rfl⟩
  · have hsvc := (r.unregisterModern_noCalls force w hr).1
    rw [hsvc]
    simp [ScriptedService.afterUnregister, res]
  · rintro hres rfl
    exact r.unregisterModern_refused w hr hres
  · rintro f hres rfl
    rw [show out = _ from r.unregisterModern_fails w hr hres]
    exact ⟨rfl, World.LogOnly.refl _⟩

/-- The contract at a forced unregistration that the service could not confirm. -/
theorem unregisterModern_contract_forced :
    let r : Registrar :=
      { generation := .modern, config := {}, remote := .scripted, store := ⟨"state"⟩
        cleanup := { store := ⟨"state"⟩, cache := ⟨"cache"⟩, scheduler := .cron "cron" }
        hostName := "host" }
    let w : World := { service := { unregisterResult := .error .timeout } }
    r.remote = .scripted ∧
    let res := w.service.unregisterResult
    let w₁ : World := { w with service := w.service.afterUnregister }
    let out := (r.unregisterModern true).run w
    out.2.service.history.toList = w.service.history.toList ++ [.unregister res] ∧
    ((res = .ok true ∨ true = true) → ∃ w₂, w₁.LogOnly w₂ ∧ r.cleanup.Reports false w₂ out) ∧
    (res = .ok false → true = false → out.1 = .ok false ∧ w₁.LogOnly out.2) ∧
    (∀ f, res = .error f → true = false → out.1 = .error f.toFault ∧ w₁.LogOnly out.2) ∧
    ∀ sch : Scheduler,
      ({ r with cleanup := { r.cleanup with scheduler := sch } }).unregisterModern true =
        r.unregisterModern true :=
  by
  intro r w
  exact ⟨rfl, unregisterModern_contract r rfl true w⟩

end Modern

/-! ## The legacy generation -/

section Legacy

variable (r : Registrar) (force : Bool) (w : World)

theorem Registrar.checkRegistration_scripted_run (hr : r.remote = .scripted) :
    r.remote.checkRegistration.run w =
      (w.service.registered.mapError Failure.toFault, { w with service := w.service.afterCheck }) := by
  rw [hr]
  exact ScriptedService.checkRegistration_run w

/-- The world after the status check. -/
def afterCheckWorld (w : World) : World := { w with service := w.service.afterCheck }

/-- The world after the status check and the unregister call. -/
def afterUnregisterWorld (w : World) : World :=
  { w with service := w.service.afterCheck.afterUnregister }

/-- A failed status check without `force` ends with its fault. -/
theorem Registrar.unregisterLegacy_check_fails (hr : r.remote = .scripted) {f : Failure}
    (hchk : w.service.registered = .error f) :
    (r.unregisterLegacy false).run w = (.error f.toFault, afterCheckWorld w) := by
  unfold Registrar.unregisterLegacy
  rw [run_bind_ok (run_capture (r.checkRegistration_scripted_run w hr)), hchk]
  rfl

/-- Under `force` a failed status check cleans up after a warning. -/
theorem Registrar.unregisterLegacy_check_forced (hr : r.remote = .scripted) {f : Failure}
    (hchk : w.service.registered = .error f) :
    ∃ w₂, (afterCheckWorld w).LogOnly w₂ ∧ r.cleanup.Reports true w₂ ((r.unregisterLegacy true).run w) := by
  unfold Registrar.unregisterLegacy
  rw [run_bind_ok (run_capture (r.checkRegistration_scripted_run w hr)), hchk]
  simp only [Except.mapError, Bool.not_true, Bool.false_eq_true, ↓reduceIte]
  exact r.cleanup.reports_after_log true .warn .info _ _ _

/-- A host the service does not know counts as unregistered: clean-up follows a line in the
journal. -/
theorem Registrar.unregisterLegacy_unknown (hr : r.remote = .scripted)
    (hchk : w.service.registered = .ok false) :
    ∃ w₂, (afterCheckWorld w).LogOnly w₂ ∧ r.cleanup.Reports true w₂ ((r.unregisterLegacy force).run w) := by
  unfold Registrar.unregisterLegacy
  rw [run_bind_ok (run_capture (r.checkRegistration_scripted_run w hr)), hchk]
  simp only [Except.mapError, Bool.false_eq_true, ↓reduceIte, pure_bind]
  exact r.cleanup.reports_after_log true .info .info _ _ _

/-- For a host the service knows, the unregister call follows the check. -/
theorem Registrar.unregisterLegacy_known (hr : r.remote = .scripted)
    (hchk : w.service.registered = .ok true) :
    (r.unregisterLegacy force).run w = (do
      let unregistered ← r.remote.unregister
      if unregistered then
        r.cleanup.run true
        info ("Successfully unregistered " ++ r.hostName)
      else
        error ("Failed to unregister " ++ r.hostName)
      pure unregistered).run (afterCheckWorld w) := by
  unfold Registrar.unregisterLegacy
  rw [run_bind_ok (run_capture (r.checkRegistration_scripted_run w hr)), hchk]
  simp only [Except.mapError, ↓reduceIte, pure_bind]
  rfl

/-- The unregister call of the legacy generation, after the status check. -/
theorem Registrar.unregister_afterCheck_run (hr : r.remote = .scripted) :
    r.remote.unregister.run (afterCheckWorld w) =
      (w.service.unregisterResult.mapError Failure.toFault, afterUnregisterWorld w) :=
  r.unregister_scripted_run (afterCheckWorld w) hr

/-- A confirmed unregistration cleans up. -/
theorem Registrar.unregisterLegacy_confirmed (hr : r.remote = .scripted)
    (hchk : w.service.registered = .ok true) (hres : w.service.unregisterResult = .ok true) :
    r.cleanup.Reports true (afterUnregisterWorld w) ((r.unregisterLegacy force).run w) := by
  have hcall := r.unregister_afterCheck_run w hr
  rw [hres] at hcall
  rw [r.unregisterLegacy_known force w hr hchk, run_bind_ok hcall]
  exact r.cleanup.reports_run true .info _ _

/-- A refused unregistration is reported as `false` and leaves all but the service as it was. -/
theorem Registrar.unregisterLegacy_refused (hr : r.remote = .scripted)
    (hchk : w.service.registered = .ok true) (hres : w.service.unregisterResult = .ok false) :
    ((r.unregisterLegacy force).run w).1 = .ok false ∧
      (afterUnregisterWorld w).LogOnly ((r.unregisterLegacy force).run w).2 := by
  have hcall := r.unregister_afterCheck_run w hr
  rw [hres] at hcall
  rw [r.unregisterLegacy_known force w hr hchk, run_bind_ok hcall]
  obtain ⟨w', hrun, hlog⟩ := run_error ("Failed to unregister " ++ r.hostName) (afterUnregisterWorld w)
  simp only [Bool.false_eq_true, ↓reduceIte]
  rw [run_bind_ok hrun]
  exact ⟨rfl, hlog⟩

/-- A failed unregister call ends with its fault, with or without `force`. -/
theorem Registrar.unregisterLegacy_call_fails (hr : r.remote = .scripted) {f : Failure}
    (hchk : w.service.registered = .ok true) (hres : w.service.unregisterResult = .error f) :
    (r.unregisterLegacy force).run w = (.error f.toFault, afterUnregisterWorld w) := by
  have hcall := r.unregister_afterCheck_run w hr
  rw [hres] at hcall
  rw [r.unregisterLegacy_known force w hr hchk, run_bind_error hcall]

/-- Whatever happens, the service saw the status check, then the unregister call exactly when
the check said `true`, and nothing else. -/
theorem Registrar.unregisterLegacy_noCalls (hr : r.remote = .scripted) :
    (if w.service.registered = .ok true then afterUnregisterWorld w else afterCheckWorld w).NoCalls
      ((r.unregisterLegacy force).run w).2 := by
  have hreports : ∀ {w₁ w₂ : World} {b : Bool}, w₁.LogOnly w₂ →
      r.cleanup.Reports b w₂ ((r.unregisterLegacy force).run w) →
      w₁.NoCalls ((r.unregisterLegacy force).run w).2 :=
    fun hlog hrep => (World.NoCalls.of_logOnly hlog).trans (LocalCleanup.Reports.noCalls _ hrep)
  rcases hchk : w.service.registered with f | b
  · rw [if_neg (by simp)]
    cases force
    · rw [r.unregisterLegacy_check_fails w hr hchk]
      exact World.NoCalls.refl _
    · obtain ⟨w₂, hlog, hrep⟩ := r.unregisterLegacy_check_forced w hr hchk
      exact hreports hlog hrep
  cases b
  · rw [if_neg (by simp)]
    obtain ⟨w₂, hlog, hrep⟩ := r.unregisterLegacy_unknown force w hr hchk
    exact hreports hlog hrep
  rw [if_pos rfl]
  rcases hres : w.service.unregisterResult with f | b
  · rw [r.unregisterLegacy_call_fails force w hr hchk hres]
    exact World.NoCalls.refl _
  cases b
  · exact World.NoCalls.of_logOnly (r.unregisterLegacy_refused force w hr hchk hres).2
  · exact hreports (World.LogOnly.refl _) (r.unregisterLegacy_confirmed force w hr hchk hres)

/-- **Unregistering in the legacy generation.** The status check comes first, and the
unregister call only for a host the service knows. Clean-up, the schedule included, runs when
the check failed under `force`, when the service does not know the host, or when it confirmed
the unregistration, and its marker write decides the answer. A refusal is `false`, a fault of
either call without the `force` that covers only the check is that fault, and in those cases
nothing but the service changed. -/
theorem unregisterLegacy_contract (r : Registrar) (hr : r.remote = .scripted) (force : Bool)
    (w : World) :
    let chk := w.service.registered
    let res := w.service.unregisterResult
    let out := (r.unregisterLegacy force).run w
    out.2.service.history.toList = w.service.history.toList ++ .checkRegistration chk ::
      (if chk = .ok true then [.unregister res] else []) ∧
    ((∃ f, chk = .error f) → force = true →
      ∃ w₂, (afterCheckWorld w).LogOnly w₂ ∧ r.cleanup.Reports true w₂ out) ∧
    (chk = .ok false → ∃ w₂, (afterCheckWorld w).LogOnly w₂ ∧ r.cleanup.Reports true w₂ out) ∧
    (chk = .ok true → res = .ok true → r.cleanup.Reports true (afterUnregisterWorld w) out) ∧
    (chk = .ok true → res = .ok false →
      out.1 = .ok false ∧ (afterUnregisterWorld w).LogOnly out.2) ∧
    (∀ f, chk = .error f → force = false → out = (.error f.toFault, afterCheckWorld w)) ∧
    (∀ f, chk = .ok true → res = .error f → out = (.error f.toFault, afterUnregisterWorld w)) := by
  intro chk res out
  refine ⟨?_, ?_, r.unregisterLegacy_unknown force w hr, r.unregisterLegacy_confirmed force w hr,
    r.unregisterLegacy_refused force w hr, ?_, fun f => r.unregisterLegacy_call_fails force w hr⟩
  · have hsvc := (r.unregisterLegacy_noCalls force w hr).1
    rw [hsvc]
    by_cases hchk : chk = .ok true
    · simp [chk, hchk, afterUnregisterWorld, ScriptedService.afterCheck,
        ScriptedService.afterUnregister, res]
    · simp [chk, hchk, afterCheckWorld, ScriptedService.afterCheck]
  · rintro ⟨f, hchk⟩ rfl
    exact r.unregisterLegacy_check_forced w hr hchk
  · rintro f hchk rfl
    exact r.unregisterLegacy_check_fails w hr hchk

/-- The contract at a forced unregistration whose status check timed out. -/
theorem unregisterLegacy_contract_forced :
    let r : Registrar :=
      { generation := .legacy, config := {}, remote := .scripted, store := ⟨"state"⟩
        cleanup := { store := ⟨"state"⟩, cache := ⟨"cache"⟩, scheduler := .cron "cron" }
        hostName := "host" }
    let w : World := { service := { registered := .error .timeout } }
    r.remote = .scripted ∧
    let chk := w.service.registered
    let res := w.service.unregisterResult
    let out := (r.unregisterLegacy true).run w
    out.2.service.history.toList = w.service.history.toList ++ .checkRegistration chk ::
      (if chk = .ok true then [.unregister res] else []) ∧
    ((∃ f, chk = .error f) → true = true →
      ∃ w₂, (afterCheckWorld w).LogOnly w₂ ∧ r.cleanup.Reports true w₂ out) ∧
    (chk = .ok false → ∃ w₂, (afterCheckWorld w).LogOnly w₂ ∧ r.cleanup.Reports true w₂ out) ∧
    (chk = .ok true → res = .ok true → r.cleanup.Reports true (afterUnregisterWorld w) out) ∧
    (chk = .ok true → res = .ok false →
      out.1 = .ok false ∧ (afterUnregisterWorld w).LogOnly out.2) ∧
    (∀ f, chk = .error f → true = false → out = (.error f.toFault, afterCheckWorld w)) ∧
    (∀ f, chk = .ok true → res = .error f → out = (.error f.toFault, afterUnregisterWorld w)) := by
  intro r w
  exact ⟨rfl, unregisterLegacy_contract r rfl true w⟩

end Legacy

end HostAgent
