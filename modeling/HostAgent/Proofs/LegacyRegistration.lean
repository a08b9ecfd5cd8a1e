import HostAgent.Proofs.StoreOutcomes
import HostAgent.Proofs.Unregistration

/-!
# `Proofs.LegacyRegistration` — what the legacy registration step does

The legacy generation asks the service whether it knows the host, brings the markers in line
with the answer, and only then decides. `Registrar.ensureLegacy_eq` cuts a run into three
stages, each with its own lemmas:

* the local preparation (`prepareLegacy`). With `forceReregister` both markers are removed and a
  new identifier is generated and stored (`prepareLegacy_forced`); without it every marker
  stays as it was (`prepareLegacy_stay`). The service is not called.
* one status check, then `reconcile`, which either fails with the marker write's fault or leaves
  the state `reconciled answer before` (`reconcile_run_ok`);
* the decision (`decideLegacy`): a host the service knows is already registered, one it does not
  know is left unregistered unless registering was asked, and registering needs credentials.

`ensureLegacy_contract` puts these together for a scripted service: the calls the service
records, the value returned and the state the markers give afterwards.
-/

namespace HostAgent

open HostAgent.Host HostAgent.Store HostAgent.Remote HostAgent.Config
open Agent Store.StateStore

namespace Registrar

/-- The registration state that bringing the markers in line with the service's answer leaves:
a host the service knows is registered, a registered host it does not know becomes
unregistered, and otherwise nothing changes. -/
def reconciled : Bool → RegistrationState → RegistrationState
  | true, _ => .registered
  | false, .registered => .unregistered
  | false, st => st

theorem reconciled_false_ne_registered (st : RegistrationState) :
    reconciled false st ≠ .registered := by
  cases st <;> simp [reconciled]

variable (r : Registrar) (req : RegistrationRequest)

/-- The legacy registration's local preparation: with `forceReregister` the markers go, then the
machine identifier is resolved (regenerated under `forceReregister`). -/
def prepareLegacy : Agent MachineIdentity := do
  Agent.debug "Trying registration."
  if req.forceReregister then
    r.store.clearRegistration
    Agent.debug "Re-register set, forcing registration."
  let identity ← MachineIdentity.resolve r.store req.forceReregister
  Agent.debug ("Machine-id: " ++ identity.text)
  pure identity

/-- The legacy registration's decision, once the markers agree with the service's answer. -/
def decideLegacy (identity : MachineIdentity) (registered : Bool) : Agent Decision := do
  if registered then
    if req.register then Agent.info "This host has already been registered."
    return .alreadyRegistered
  if !req.register then
    Agent.info "This host has not been registered. Use --register to register this host."
    return .notRegistered
  let _ ← resolveCredentials r.config
  r.remote.register
  r.store.markRegistered
  Agent.info ("Successfully registered " ++ r.hostName ++ " (machine id " ++ identity.text ++ ")")
  pure .newlyRegistered

/-- **The legacy registration in three stages**: the local preparation, the status check with the
markers brought in line, the decision. -/
theorem ensureLegacy_eq : r.ensureLegacy req = (do
    let identity ← r.prepareLegacy req
    let registered ← r.remote.checkRegistration
    r.reconcile registered
    r.decideLegacy req identity registered) := by
  unfold ensureLegacy prepareLegacy decideLegacy
  cases req.forceReregister <;> simp only [bind_assoc, pure_bind, ↓reduceIte, Bool.false_eq_true]

/-! ## The local steps in any frame

As for the store's own steps: the preparation and the reconciliation stay in every frame that
their steps stay in, and the frames take them from these lemmas. -/

section Frames

variable {R : World → World → Prop} [Std.Refl R] [Trans R R R]

/-- The preparation needs the frame for dropping the markers only when re-registration is
forced. -/
theorem prepareLegacy_within_of
    (hclear : req.forceReregister = true → Within R r.store.clearRegistration)
    (hresolve : Within R (MachineIdentity.resolve r.store req.forceReregister))
    (hlog : ∀ l msg, Within R (log l msg)) : Within R (r.prepareLegacy req) := by
  have hrest : Within R (do
      let identity ← MachineIdentity.resolve r.store req.forceReregister
      Agent.debug ("Machine-id: " ++ identity.text)
      pure identity) :=
    Within.bind hresolve fun _ => Within.bind (hlog _ _) fun _ => Within.pure _
  unfold prepareLegacy
  refine Within.bind (hlog _ _) fun _ => ?_
  dsimp only
  split
  · next hf => exact Within.bind (hclear hf) fun _ => Within.bind (hlog _ _) fun _ => hrest
  · exact hrest

/-- The reconciliation needs the frame only for the marker of the service's answer. -/
theorem reconcile_within_of {registered : Bool} (hlog : ∀ l msg, Within R (log l msg))
    (hregistered : registered = true → Within R r.store.markRegistered)
    (hunregistered : registered = false → Within R r.store.markUnregistered) :
    Within R (r.reconcile registered) := by
  unfold reconcile
  refine Within.bind (r.store.registrationState_within_of hlog) fun st => ?_
  -- nothing to do, or the marker of the answer to write
  split
  · exact Within.pure _
  · exact Within.pure _
  · exact Within.bind (hlog _ _) fun _ => hregistered rfl
  · exact Within.bind (hlog _ _) fun _ => hunregistered rfl
  · exact Within.pure _

end Frames

/-! ## The local preparation -/

/-- The preparation is a store step that lets no marker appear. -/
theorem prepareLegacy_within (hs : r.store.Plain) :
    Within (r.store.StoreStep (fun _ => False)) (r.prepareLegacy req) :=
  r.prepareLegacy_within_of req (fun _ => clearRegistration_within) (MachineIdentity.resolve_within hs _)
    within_log

/-- **Without `forceReregister` the preparation keeps every marker as it was.** -/
theorem prepareLegacy_stay (hs : r.store.Plain) (hf : req.forceReregister = false) :
    Within r.store.MarkersStay (r.prepareLegacy req) :=
  r.prepareLegacy_within_of req (fun h => absurd (hf ▸ h) Bool.false_ne_true)
    (MachineIdentity.resolve_stay hs _) fun _ _ => stay_of_logOnly (logOnly_log _ _)

/-- **With `forceReregister` the preparation leaves both markers absent and a new identifier in
its record**, a UUID drawn from the random source. -/
theorem prepareLegacy_forced (hs : r.store.Plain) (hf : req.forceReregister = true) :
    Triple (fun w => r.store.Sound w.files w.cwd) (r.prepareLegacy req)
      (fun id w => r.store.Absent .registered w ∧ r.store.Absent .unregistered w ∧
        r.store.RecordHolds .machineId id.text.toUTF8 w ∧
        ∃ bytes, id.text = MachineIdentity.uuidOfBytes bytes)
      (fun _ => True) := by
  unfold prepareLegacy
  simp only [hf, ↓reduceIte]
  refine Triple.bind (triple_of_logOnly (logOnly_log _ _) fun _ _ h hsound =>
    (StoreStep.of_logOnly (A := fun _ => False) h).sound hsound) fun _ => ?_
  refine Triple.bind (clearRegistration_absent hs) fun _ => Triple.bind
    (triple_of_logOnly (logOnly_log _ _) fun _ _ h ha => ⟨ha.1.of_logOnly h, ha.2.of_logOnly h⟩)
    fun _ => ?_
  refine Triple.bind (MachineIdentity.resolve_regenerate_triple hs) fun id => ?_
  -- the last journal line keeps all four facts
  exact Triple.bind (triple_of_logOnly (logOnly_log _ _) fun _ _ h ⟨hr, hu, hrec, hgen⟩ =>
    ⟨hr.of_logOnly h, hu.of_logOnly h, hrec.of_logOnly h, hgen⟩) fun _ => Triple.pure fun _ h => h

/-! ## Bringing the markers in line -/

/-- Bringing the markers in line is a store step. -/
theorem reconcile_within (hs : r.store.Plain) (registered : Bool) :
    Within (r.store.StoreStep (fun _ => True)) (r.reconcile registered) := by
  have hwrite : ∀ m, Within (r.store.StoreStep (fun _ => True)) (r.store.writeMarker m) :=
    fun m w => (writeMarker_within hs m w).mono fun _ _ _ => trivial
  exact r.reconcile_within_of within_log (fun _ => hwrite _) fun _ => hwrite _

/-- **Bringing the markers in line with the service's answer**, when it succeeds, leaves the
state `reconciled` gives. -/
theorem reconcile_run_ok (hs : r.store.Plain) {registered : Bool} {w w' : World}
    (hsound : r.store.Sound w.files w.cwd) (h : (r.reconcile registered).run w = (.ok (), w')) :
    r.store.Sound w'.files w'.cwd ∧
      r.store.stateIn w' = reconciled registered (r.store.stateIn w) := by
  obtain ⟨w₀, hread, hlog⟩ := registrationState_run_stateIn (s := r.store) w
  have hsound₀ := (StoreStep.of_logOnly (A := fun _ => False) hlog).sound hsound
  have hstate₀ := stateIn_of_logOnly (s := r.store) hlog
  -- a marker written after a journal line: the write's own triple gives the state
  have hwrite : ∀ (act : Agent Unit) (target : RegistrationState) (l : Level) (msg : String),
      Triple (fun w => r.store.Sound w.files w.cwd) act
        (fun _ w => r.store.Sound w.files w.cwd ∧ r.store.stateIn w = target) (fun _ => True) →
      (log l msg >>= fun _ => act).run w₀ = (.ok (), w') →
      r.store.Sound w'.files w'.cwd ∧ r.store.stateIn w' = target := by
    intro act target l msg htriple hrun
    obtain ⟨_, w₁, hl, hact⟩ := run_bind_eq_ok hrun
    have hsound₁ := (StoreStep.of_logOnly (A := fun _ => False)
      (Within.of_run (logOnly_log l msg) hl)).sound hsound₀
    have := htriple w₁ hsound₁
    rwa [hact] at this
  unfold reconcile at h
  rw [run_bind_ok hread] at h
  cases registered <;> cases hst : r.store.stateIn w <;> rw [hst] at h <;> dsimp only at h
  · exact hwrite _ _ _ _ (markUnregistered_state hs) h
  · cases h
    exact ⟨hsound₀, hstate₀.trans hst⟩
  · cases h
    exact ⟨hsound₀, hstate₀.trans hst⟩
  · cases h
    exact ⟨hsound₀, hstate₀.trans hst⟩
  · exact hwrite _ _ _ _ (markRegistered_state hs) h
  · exact hwrite _ _ _ _ (markRegistered_state hs) h

/-! ## The decision -/

section Decision

variable {w : World} (identity : MachineIdentity)

/-- A host the service knows is already registered; at most a line goes to the journal. -/
theorem decideLegacy_known :
    ∃ w', (r.decideLegacy req identity true).run w = (.ok .alreadyRegistered, w') ∧ w.LogOnly w' := by
  unfold decideLegacy
  simp only [↓reduceIte]
  split
  · obtain ⟨w', hw, hlo⟩ := run_info "This host has already been registered." w
    exact ⟨w', by rw [run_bind_ok hw]; rfl, hlo⟩
  · exact ⟨w, rfl, .refl w⟩

/-- A host the service does not know, when registering is not asked, is not registered. -/
theorem decideLegacy_unasked (hreg : req.register = false) :
    ∃ w', (r.decideLegacy req identity false).run w = (.ok .notRegistered, w') ∧ w.LogOnly w' := by
  unfold decideLegacy
  simp only [Bool.false_eq_true, ↓reduceIte, hreg, Bool.not_false]
  obtain ⟨w', hw, hlo⟩ :=
    run_info "This host has not been registered. Use --register to register this host." w
  exact ⟨w', by rw [run_bind_ok hw]; rfl, hlo⟩

/-- When registering is asked: credentials, then the service, then the marker. -/
theorem decideLegacy_asked (hreg : req.register = true) :
    r.decideLegacy req identity false = (do
      let _ ← resolveCredentials r.config
      r.remote.register
      r.store.markRegistered
      Agent.info ("Successfully registered " ++ r.hostName ++ " (machine id " ++ identity.text ++ ")")
      pure .newlyRegistered) := by
  unfold decideLegacy
  simp only [Bool.false_eq_true, ↓reduceIte, hreg, Bool.not_true]

theorem register_scripted_run (hr : r.remote = .scripted) (w : World) :
    r.remote.register.run w = (w.service.registerResult.mapError Failure.toFault,
      { w with service := w.service.afterRegister }) := by
  rw [hr]
  exact ScriptedService.register_run w

/-- **Registering calls the service once credentials resolve**, and reports the host newly
registered only when the service and the marker write both succeeded, with the markers then
reading registered. -/
theorem decideLegacy_registers (hr : r.remote = .scripted) (hs : r.store.Plain)
    (hreg : req.register = true) {c : Credentials} {w₃ : World}
    (hsound : r.store.Sound w.files w.cwd)
    (hcreds : (resolveCredentials r.config).run w = (.ok c, w₃)) :
    ((r.decideLegacy req identity false).run w).2.service.history.toList =
        w.service.history.toList ++ [Call.register w.service.registerResult] ∧
      ∀ d, ((r.decideLegacy req identity false).run w).1 = .ok d →
        d = .newlyRegistered ∧
          r.store.stateIn ((r.decideLegacy req identity false).run w).2 = .registered := by
  have hlo := Within.of_run (resolveCredentials_logOnly r.config) hcreds
  have hsound₃ := (StoreStep.of_logOnly (A := fun _ => False) hlo).sound hsound
  have hsv₃ : w₃.service = w.service := hlo.service_eq
  -- the world after the service's answer, and the record the answer leaves
  set w₄ : World := { w₃ with service := w₃.service.afterRegister } with hw₄
  have hhist₄ : w₄.service.history.toList =
      w.service.history.toList ++ [Call.register w.service.registerResult] := by
    simp [hw₄, ScriptedService.afterRegister, hsv₃]
  have hsound₄ : r.store.Sound w₄.files w₄.cwd := hsound₃
  rw [decideLegacy_asked r req identity hreg, run_bind_ok hcreds]
  rcases hres : w₃.service.registerResult with f | u
  · have hcall := register_scripted_run r hr w₃
    rw [hres] at hcall
    rw [run_bind_error hcall]
    exact ⟨hhist₄, fun d hd => by cases hd⟩
  have hcall := register_scripted_run r hr w₃
  rw [hres] at hcall
  rw [run_bind_ok hcall]
  -- the marker write keeps the service; a failed one ends the step
  rcases hm : r.store.markRegistered.run w₄ with ⟨_ | _, w₅⟩
  · have hstep := Within.of_run (writeMarker_within hs .registered) hm
    rw [run_bind_error hm]
    exact ⟨by rw [hstep.service_eq]; exact hhist₄, fun d hd => by cases hd⟩
  have hstep := Within.of_run (writeMarker_within hs .registered) hm
  have hstate := markRegistered_state hs w₄ hsound₄
  rw [hm] at hstate
  rw [run_bind_ok hm]
  obtain ⟨w₆, hinfo, hlo₆⟩ := run_info
    ("Successfully registered " ++ r.hostName ++ " (machine id " ++ identity.text ++ ")") w₅
  rw [run_bind_ok hinfo, run_pure]
  have hsv₆ : w₆.service = w₅.service := hlo₆.service_eq
  refine ⟨?_, fun d hd => ⟨(Except.ok.inj hd).symm, ?_⟩⟩
  · rw [hsv₆, hstep.service_eq]
    exact hhist₄
  · rw [stateIn_of_logOnly hlo₆]
    exact hstate.2

end Decision

/-- **What the preparation leaves when it succeeds**: the service untouched and the state
directory sound; the markers read unknown after `forceReregister` and as before otherwise. -/
theorem prepareLegacy_run_ok (hs : r.store.Plain) {w wₚ : World} {id : MachineIdentity}
    (hsound : r.store.Sound w.files w.cwd) (h : (r.prepareLegacy req).run w = (.ok id, wₚ)) :
    wₚ.service = w.service ∧ r.store.Sound wₚ.files wₚ.cwd ∧
      r.store.stateIn wₚ = if req.forceReregister then .unknown else r.store.stateIn w := by
  have hstep := Within.of_run (prepareLegacy_within r req hs) h
  refine ⟨hstep.service_eq, hstep.sound hsound, ?_⟩
  cases hf : req.forceReregister
  · rw [if_neg Bool.false_ne_true]
    exact (Within.of_run (prepareLegacy_stay r req hs hf) h).stateIn_eq hs hsound
  · rw [if_pos rfl]
    have hforced := prepareLegacy_forced r req hs hf w hsound
    rw [h] at hforced
    exact stateIn_cleared hs hforced.1 hforced.2.1

end Registrar

/-! ## The contract -/

theorem afterCheckWorld_history (w : World) :
    (afterCheckWorld w).service.history.toList =
      w.service.history.toList ++ [Call.checkRegistration w.service.registered] := by
  simp [afterCheckWorld, ScriptedService.afterCheck]

theorem stateIn_afterCheckWorld (s : StateStore) (w : World) :
    s.stateIn (afterCheckWorld w) = s.stateIn w := by
  simp only [afterCheckWorld, StateStore.stateIn]

theorem present_afterCheckWorld (s : StateStore) (w : World) (m : Marker) :
    s.Present (afterCheckWorld w) m ↔ s.Present w m := by
  simp only [afterCheckWorld, StateStore.Present]

/-- **The legacy registration step against a scripted service**, from a sound plain state
directory.

* Nothing reaches the service before the local preparation is done, and a failed preparation
  ends the step with its fault.
* The service is asked with both markers removed and a new identifier in its record under
  `forceReregister`, and with the markers as they were otherwise.
* The service is asked exactly once. A failed check ends the step with its fault, and a failed
  marker write in `reconcile` with that one, neither registering.
* A host the service knows is already registered, and the markers then read registered.
* A host it does not know, when registering is not asked, is not registered: the markers read
  the reconciled state, which is unregistered where they read registered before a step without
  `forceReregister`, and never registered.
* Registering calls the service exactly when credentials resolve, and reports the host newly
  registered only with the markers reading registered. -/
theorem ensureLegacy_contract (r : Registrar) (hr : r.remote = .scripted) (hs : r.store.Plain)
    (req : RegistrationRequest) (w : World) (hsound : r.store.Sound w.files w.cwd) :
    let chk := w.service.registered
    let before := w.service.history.toList
    let out := (r.ensureLegacy req).run w
    (∀ (e : Fault) (wₚ : World), (r.prepareLegacy req).run w = (Except.error e, wₚ) →
      out = (Except.error e, wₚ) ∧ wₚ.service = w.service) ∧
    ∀ (id : MachineIdentity) (wₚ : World), (r.prepareLegacy req).run w = (Except.ok id, wₚ) →
      let w₁ := afterCheckWorld wₚ
      wₚ.service = w.service ∧
      (req.forceReregister = true →
        r.store.Absent .registered wₚ ∧ r.store.Absent .unregistered wₚ ∧
        (r.store.readRecord .machineId).run wₚ = (Except.ok (some id.text.toUTF8), wₚ) ∧
        ∃ bytes, id.text = MachineIdentity.uuidOfBytes bytes) ∧
      (req.forceReregister = false →
        ∀ m : Marker, m.IsRegistration → (r.store.Present wₚ m ↔ r.store.Present w m)) ∧
      (∀ f : Failure, chk = Except.error f →
        out = (Except.error f.toFault, w₁) ∧
        out.2.service.history.toList = before ++ [Call.checkRegistration chk] ∧
        (req.forceReregister = false →
          ∀ m : Marker, m.IsRegistration → (r.store.Present out.2 m ↔ r.store.Present w m))) ∧
      (∀ (b : Bool) (e : Fault) (w₂ : World), chk = Except.ok b →
        (r.reconcile b).run w₁ = (Except.error e, w₂) →
        out = (Except.error e, w₂) ∧
        out.2.service.history.toList = before ++ [Call.checkRegistration chk]) ∧
      (∀ w₂ : World, chk = Except.ok true → (r.reconcile true).run w₁ = (Except.ok (), w₂) →
        out.1 = Except.ok Decision.alreadyRegistered ∧
        out.2.service.history.toList = before ++ [Call.checkRegistration chk] ∧
        r.store.stateIn out.2 = RegistrationState.registered) ∧
      (∀ w₂ : World, chk = Except.ok false → req.register = false →
        (r.reconcile false).run w₁ = (Except.ok (), w₂) →
        out.1 = Except.ok Decision.notRegistered ∧
        out.2.service.history.toList = before ++ [Call.checkRegistration chk] ∧
        r.store.stateIn out.2 =
          Registrar.reconciled false
            (if req.forceReregister then RegistrationState.unknown else r.store.stateIn w) ∧
        r.store.stateIn out.2 ≠ RegistrationState.registered) ∧
      (∀ w₂ : World, chk = Except.ok false → req.register = true →
        (r.reconcile false).run w₁ = (Except.ok (), w₂) →
        (∀ (e : Fault) (w₃ : World), (resolveCredentials r.config).run w₂ = (Except.error e, w₃) →
          out = (Except.error e, w₃) ∧
          out.2.service.history.toList = before ++ [Call.checkRegistration chk]) ∧
        (∀ (c : Credentials) (w₃ : World), (resolveCredentials r.config).run w₂ = (Except.ok c, w₃) →
          out.2.service.history.toList =
            before ++ [Call.checkRegistration chk, Call.register w.service.registerResult] ∧
          ∀ d : Decision, out.1 = Except.ok d →
            d = Decision.newlyRegistered ∧ r.store.stateIn out.2 = RegistrationState.registered)) := by
  intro chk before out
  refine ⟨fun e wₚ hprep => ⟨?_, (Within.of_run (r.prepareLegacy_within req hs) hprep).service_eq⟩,
    fun id wₚ hprep => ?_⟩
  · show (r.ensureLegacy req).run w = _
    rw [Registrar.ensureLegacy_eq, run_bind_error hprep]
  intro w₁
  obtain ⟨hsvₚ, hsoundₚ, hstateₚ⟩ := r.prepareLegacy_run_ok req hs hsound hprep
  have hsound₁ : r.store.Sound w₁.files w₁.cwd := hsoundₚ
  have hstate₁ : r.store.stateIn w₁ = r.store.stateIn wₚ := stateIn_afterCheckWorld _ _
  have hhist₁ : w₁.service.history.toList = before ++ [.checkRegistration chk] := by
    rw [afterCheckWorld_history, hsvₚ]
  have hkept : req.forceReregister = false →
      ∀ m : Marker, m.IsRegistration → (r.store.Present wₚ m ↔ r.store.Present w m) :=
    fun hf m hm => (Within.of_run (r.prepareLegacy_stay req hs hf) hprep).present_iff hsound hm
  -- the status check, answered from the script
  have hcheck : ∀ x, chk = x →
      r.remote.checkRegistration.run wₚ = (x.mapError Failure.toFault, w₁) := by
    rintro x rfl
    have hreg : wₚ.service.registered = chk := by rw [hsvₚ]
    rw [r.checkRegistration_scripted_run wₚ hr, hreg]
    rfl
  have hrun : out = (do
      let registered ← r.remote.checkRegistration
      r.reconcile registered
      r.decideLegacy req id registered).run wₚ := by
    show (r.ensureLegacy req).run w = _
    rw [Registrar.ensureLegacy_eq, run_bind_ok hprep]
  have hafter : ∀ b, chk = .ok b → out = (do
      r.reconcile b
      r.decideLegacy req id b).run w₁ := fun b hb => by
    rw [hrun, run_bind_ok (hcheck _ hb)]
  -- after `reconcile` the service is the one the check left
  have hrec_sv : ∀ b x w₂, (r.reconcile b).run w₁ = (x, w₂) → w₂.service = w₁.service :=
    fun b _ _ h => (Within.of_run (r.reconcile_within hs b) h).service_eq
  refine ⟨hsvₚ, fun hf => ?_, hkept, fun f hf => ?_, fun b e w₂ hb hrec => ?_, fun w₂ hb hrec => ?_,
    fun w₂ hb hreg hrec => ?_, fun w₂ hb hreg hrec => ⟨fun e w₃ hcreds => ?_, fun c w₃ hcreds => ?_⟩⟩
  · -- the forced preparation
    have hforced := r.prepareLegacy_forced req hs hf w hsound
    rw [hprep] at hforced
    obtain ⟨hreg, hunreg, hrec, hgen⟩ := hforced
    exact ⟨hreg, hunreg, hrec.readRecord_run hs, hgen⟩
  · -- a failed check
    have hout : out = (.error f.toFault, w₁) := by
      rw [hrun, run_bind_error (hcheck _ hf)]
    rw [hout]
    exact ⟨rfl, hhist₁, fun hf' m hm => (present_afterCheckWorld _ _ m).trans (hkept hf' m hm)⟩
  · -- a failed marker write
    have hout : out = (.error e, w₂) := by
      rw [hafter b hb, run_bind_error hrec]
    rw [hout]
    exact ⟨rfl, by rw [hrec_sv _ _ _ hrec, hhist₁]⟩
  · -- a host the service knows
    obtain ⟨hsound₂, hstate₂⟩ := r.reconcile_run_ok hs hsound₁ hrec
    obtain ⟨w', hdec, hlo⟩ := r.decideLegacy_known req id (w := w₂)
    have hout : out = (.ok .alreadyRegistered, w') := by
      rw [hafter true hb, run_bind_ok hrec, hdec]
    have hsv' : w'.service = w₂.service := hlo.service_eq
    rw [hout]
    exact ⟨rfl, by rw [hsv', hrec_sv _ _ _ hrec, hhist₁], (stateIn_of_logOnly hlo).trans hstate₂⟩
  · -- a host it does not know, registering not asked
    obtain ⟨hsound₂, hstate₂⟩ := r.reconcile_run_ok hs hsound₁ hrec
    obtain ⟨w', hdec, hlo⟩ := r.decideLegacy_unasked req id hreg (w := w₂)
    have hout : out = (.ok .notRegistered, w') := by
      rw [hafter false hb, run_bind_ok hrec, hdec]
    have hsv' : w'.service = w₂.service := hlo.service_eq
    have hstate' : r.store.stateIn w' =
        Registrar.reconciled false (if req.forceReregister then .unknown else r.store.stateIn w) := by
      rw [stateIn_of_logOnly hlo, hstate₂, hstate₁, hstateₚ]
    rw [hout]
    exact ⟨rfl, by rw [hsv', hrec_sv _ _ _ hrec, hhist₁], hstate',
      hstate' ▸ Registrar.reconciled_false_ne_registered _⟩
  · -- registering asked, no credentials
    have hout : out = (.error e, w₃) := by
      rw [hafter false hb, run_bind_ok hrec, r.decideLegacy_asked req id hreg, run_bind_error hcreds]
    have hsv₃ : w₃.service = w₂.service :=
      (Within.of_run (resolveCredentials_logOnly r.config) hcreds).service_eq
    rw [hout]
    exact ⟨rfl, by rw [hsv₃, hrec_sv _ _ _ hrec, hhist₁]⟩
  · -- registering asked, credentials at hand
    obtain ⟨hsound₂, -⟩ := r.reconcile_run_ok hs hsound₁ hrec
    have hout : out = (r.decideLegacy req id false).run w₂ := by
      rw [hafter false hb, run_bind_ok hrec]
    obtain ⟨hhist, hdone⟩ := r.decideLegacy_registers req id hr hs hreg hsound₂ hcreds
    have hsv₂ : w₂.service = w.service.afterCheck := by
      rw [hrec_sv _ _ _ hrec]
      show wₚ.service.afterCheck = _
      rw [hsvₚ]
    rw [hout]
    refine ⟨?_, hdone⟩
    rw [hhist, hsv₂, ← hsvₚ]
    simp [ScriptedService.afterCheck, before, chk, hsvₚ]

/-- The contract at a forced registration into an empty state directory. -/
theorem ensureLegacy_contract_forced :
    let r : Registrar :=
      { generation := .legacy, config := {}, remote := .scripted, store := ⟨"state"⟩
        cleanup := { store := ⟨"state"⟩, cache := ⟨"cache"⟩, scheduler := .cron "cron" }
        hostName := "host" }
    let req : RegistrationRequest := { forceReregister := true, register := true }
    let w : World := {}
    r.remote = .scripted ∧ r.store.Plain ∧ r.store.Sound w.files w.cwd ∧
    let chk := w.service.registered
    let before := w.service.history.toList
    let out := (r.ensureLegacy req).run w
    (∀ (e : Fault) (wₚ : World), (r.prepareLegacy req).run w = (Except.error e, wₚ) →
      out = (Except.error e, wₚ) ∧ wₚ.service = w.service) ∧
    ∀ (id : MachineIdentity) (wₚ : World), (r.prepareLegacy req).run w = (Except.ok id, wₚ) →
      let w₁ := afterCheckWorld wₚ
      wₚ.service = w.service ∧
      (req.forceReregister = true →
        r.store.Absent .registered wₚ ∧ r.store.Absent .unregistered wₚ ∧
        (r.store.readRecord .machineId).run wₚ = (Except.ok (some id.text.toUTF8), wₚ) ∧
        ∃ bytes, id.text = MachineIdentity.uuidOfBytes bytes) ∧
      (req.forceReregister = false →
        ∀ m : Marker, m.IsRegistration → (r.store.Present wₚ m ↔ r.store.Present w m)) ∧
      (∀ f : Failure, chk = Except.error f →
        out = (Except.error f.toFault, w₁) ∧
        out.2.service.history.toList = before ++ [Call.checkRegistration chk] ∧
        (req.forceReregister = false →
          ∀ m : Marker, m.IsRegistration → (r.store.Present out.2 m ↔ r.store.Present w m))) ∧
      (∀ (b : Bool) (e : Fault) (w₂ : World), chk = Except.ok b →
        (r.reconcile b).run w₁ = (Except.error e, w₂) →
        out = (Except.error e, w₂) ∧
        out.2.service.history.toList = before ++ [Call.checkRegistration chk]) ∧
      (∀ w₂ : World, chk = Except.ok true → (r.reconcile true).run w₁ = (Except.ok (), w₂) →
        out.1 = Except.ok Decision.alreadyRegistered ∧
        out.2.service.history.toList = before ++ [Call.checkRegistration chk] ∧
        r.store.stateIn out.2 = RegistrationState.registered) ∧
      (∀ w₂ : World, chk = Except.ok false → req.register = false →
        (r.reconcile false).run w₁ = (Except.ok (), w₂) →
        out.1 = Except.ok Decision.notRegistered ∧
        out.2.service.history.toList = before ++ [Call.checkRegistration chk] ∧
        r.store.stateIn out.2 =
          Registrar.reconciled false
            (if req.forceReregister then RegistrationState.unknown else r.store.stateIn w) ∧
        r.store.stateIn out.2 ≠ RegistrationState.registered) ∧
      (∀ w₂ : World, chk = Except.ok false → req.register = true →
        (r.reconcile false).run w₁ = (Except.ok (), w₂) →
        (∀ (e : Fault) (w₃ : World), (resolveCredentials r.config).run w₂ = (Except.error e, w₃) →
          out = (Except.error e, w₃) ∧
          out.2.service.history.toList = before ++ [Call.checkRegistration chk]) ∧
        (∀ (c : Credentials) (w₃ : World), (resolveCredentials r.config).run w₂ = (Except.ok c, w₃) →
          out.2.service.history.toList =
            before ++ [Call.checkRegistration chk, Call.register w.service.registerResult] ∧
          ∀ d : Decision, out.1 = Except.ok d →
            d = Decision.newlyRegistered ∧ r.store.stateIn out.2 = RegistrationState.registered)) := by
  intro r req w
  have hs : r.store.Plain := by
    unfold StateStore.Plain
    decide
  have hsound : r.store.Sound w.files w.cwd :=
    sound_of_unbound fun l hl => by simp [w, FileTree.lookup_of_ne_nil _ hl.ne_nil]
  exact ⟨rfl, hs, hsound, ensureLegacy_contract r rfl hs req w hsound⟩

/-- **Without the name condition the preparation can uncover a marker.** Through `s/n/..` with
`n` missing no marker names anything, so clearing them removes nothing; storing the new
identifier creates `n`, and the registered marker's path then reaches the file `s/.registered`
that was there all along. The service is asked with that marker present, and an unknown host
is then marked unregistered rather than left unknown. -/
theorem forced_reregistration_through_missing_dir :
    let r : Registrar :=
      { generation := .legacy, config := {}, remote := .scripted, store := ⟨"s/n/.."⟩
        cleanup := { store := ⟨"s/n/.."⟩, cache := ⟨"cache"⟩, scheduler := .cron "cron" }
        hostName := "host" }
    let req : RegistrationRequest := { forceReregister := true }
    let w : World :=
      { files := { entries := [(["s"], .dir 0o755), (["s", ".registered"], .file "x".toUTF8 0o644)] } }
    let wₚ := ((r.prepareLegacy req).run w).2
    wₚ.files.isFile wₚ.cwd (r.store.markerPath .registered) = true ∧
      ((r.ensureLegacy req).run w).1.toOption = some .notRegistered ∧
      r.store.stateIn ((r.ensureLegacy req).run w).2 = .unregistered := by
  dsimp only
  decide +kernel

end HostAgent
