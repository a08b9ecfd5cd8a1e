import HostAgent.Proofs.IdentityRequests
import HostAgent.Proofs.Authorization

/-!
# `Proofs.CallSequence` — the calls one run makes, in order

Against the scripted service and a canned collector, the service records every call it takes
(`ScriptedService.history`) and the collector every invocation (`World.collectorCalls`).
`run_calls_in_order` says what one run adds to the two records, for every setting, every script
and every world:

* settings that fail validation, and an offline run asked to update its rules, add nothing and
  leave every file as it was;
* an unregistering run adds the calls `unregisterCalls` and invokes no collector;
* an offline run calls nothing and leaves every file as it was;
* any other run calls a prefix of the registration's calls (`registrationCalls`) and the rules'
  (`rulesCalls`) before the collector runs; all of them once it runs; and then up to
  `max retries 1` uploads once it has finished (`InOrder`).

The steps that make no call are steps of the host alone (`World.HostOnly`). `World.Took w₀ cs ks`
says that since `w₀` the service took `cs` and the collector `ks`; each stage of a run is stated by
what it adds when it succeeds and what it may have added when it fails, and the stages are put in
order by `Triple.bind`.
-/

namespace HostAgent

open HostAgent.Host HostAgent.Store HostAgent.Remote HostAgent.Config HostAgent.Collection
open Agent Store.StateStore

/-! ## Steps of the host alone, continued -/

namespace World.HostOnly

variable {w₁ w₂ : World}

theorem env_eq (h : w₁.HostOnly w₂) : w₂.env = w₁.env := by
  rw [h]

/-- A step of the host alone calls neither the service nor a collector. -/
theorem noCalls (h : w₁.HostOnly w₂) : w₁.NoCalls w₂ :=
  ⟨by rw [h], by rw [h]⟩

end World.HostOnly

namespace Store.StateStore

variable (s : StateStore)

theorem writeMarker_hostOnly (m : Marker) : Within World.HostOnly (s.writeMarker m) :=
  s.writeMarker_within_of (fun _ _ => removeIfExists_hostOnly _)
    (fun _ => s.writeAtomic_hostOnly _ _) hostOnly_log

theorem clearRegistration_hostOnly : Within World.HostOnly s.clearRegistration :=
  Within.bind (removeIfExists_hostOnly _) fun _ => removeIfExists_hostOnly _

end Store.StateStore

namespace Registrar

variable (r : Registrar)

theorem prepareLegacy_hostOnly (req : RegistrationRequest) :
    Within World.HostOnly (r.prepareLegacy req) :=
  r.prepareLegacy_within_of req (fun _ => r.store.clearRegistration_hostOnly)
    (MachineIdentity.resolve_hostOnly _ _) hostOnly_log

theorem reconcile_hostOnly (registered : Bool) : Within World.HostOnly (r.reconcile registered) :=
  r.reconcile_within_of hostOnly_log (fun _ => r.store.writeMarker_hostOnly _)
    fun _ => r.store.writeMarker_hostOnly _

end Registrar

namespace Uploader

variable (u : Uploader)

theorem finish_hostOnly (attempts : Nat) (response : UploadResponse) :
    Within World.HostOnly (u.finish attempts response) :=
  u.finish_within_of (u.store.writeRecord_hostOnly _) (u.store.writeMarker_hostOnly _) hostOnly_log
    attempts response

end Uploader

/-! ## Credentials -/

namespace Remote

/-- Whether credentials resolve from the settings and the environment `env`: the certificate
method needs nothing, the basic method a non-empty user name and password, each taken from its
variable when that is set. -/
def credentialsResolve (c : AgentConfig) (env : List (String × String)) : Bool :=
  match c.authMethod with
  | .cert => true
  | .basic =>
    (pick ((env.find? (·.1 == usernameVar)).map (·.2)) c.username).isSome &&
      (pick ((env.find? (·.1 == passwordVar)).map (·.2)) c.password).isSome

/-- **Credentials resolve exactly as `credentialsResolve` says.** -/
theorem resolveCredentials_isOk (c : AgentConfig) (w : World) :
    ((resolveCredentials c).run w).1.isOk = credentialsResolve c w.env := by
  obtain ⟨w', hrun, -⟩ := resolveCredentials_run c w
  rw [hrun]
  unfold credentialsResolve
  rcases c.authMethod with _ | _
  · -- the basic method answers credentials exactly when both picked values are there
    change (credentialsFor .basic (effective (w.var usernameVar) c.username)
      (effective (w.var passwordVar) c.password), w').1.isOk =
      ((pick (w.var usernameVar) c.username).isSome && (pick (w.var passwordVar) c.password).isSome)
    generalize w.var usernameVar = eu
    generalize w.var passwordVar = ep
    rw [← credentialsFor_basic]
    rcases pick eu c.username with _ | u <;> rcases pick ep c.password with _ | p <;> rfl
  · rfl

end Remote

/-! ## The calls a run may make -/

namespace Orchestrator

/-- The calls of the legacy registration step, read off the service's script: the status check,
then a registration when the service does not know the host, registering is asked and the
credentials resolve. -/
def legacyCalls (register : Bool) (σ : ScriptedService) (credentials : Bool) : List Call :=
  .checkRegistration σ.registered ::
    if σ.registered = .ok false ∧ register = true ∧ credentials = true then
      [.register σ.registerResult]
    else []

/-- The calls of the registration step; the modern service registers the host by itself. -/
def registrationCalls (c : AgentConfig) (σ : ScriptedService) (credentials : Bool) : List Call :=
  match c.protocol with
  | .legacy => legacyCalls (c.register || c.reregister) σ credentials
  | .modern => []

/-- The calls of taking the rules online: one fetch when they update and the collection is not a
core one. -/
def rulesCalls (c : AgentConfig) : List Call :=
  if c.autoUpdate && !c.coreCollect then [.fetchRules] else []

/-- The calls of unregistering: legacy, the status check and then the unregister call for a host
the service knows; modern, the unregister call alone. -/
def unregisterCalls (c : AgentConfig) (σ : ScriptedService) : List Call :=
  match c.protocol with
  | .legacy =>
    .checkRegistration σ.registered ::
      if σ.registered = .ok true then [.unregister σ.unregisterResult] else []
  | .modern => [.unregister σ.unregisterResult]

/-- The calls and collector invocations of a run that registers, collects and uploads, in the
order they can come: a prefix of the calls `cs` while the collector has not run; all of them once
it has run; and up to `n` uploads after them once it has also finished. -/
def InOrder (cs : List Call) (n : Nat) (calls : List Call) (invoked : List CollectorCall) : Prop :=
  (calls <+: cs ∧ invoked = []) ∨ (calls = cs ∧ ∃ request, invoked = [.run request]) ∨
    ((∃ request rules removal, invoked = [.run request, .finalize rules removal]) ∧
      ∃ m ≤ n, calls = cs ++ List.replicate m .uploadArchive)

end Orchestrator

/-! ## What the service and the collector took -/

/-- Since `w₀` the service took the calls `cs` and the collector the invocations `ks`. -/
def World.Took (w₀ : World) (cs : List Call) (ks : List CollectorCall) (w : World) : Prop :=
  w.service.history.toList = w₀.service.history.toList ++ cs ∧
    w.collectorCalls.toList = w₀.collectorCalls.toList ++ ks

namespace World.Took

variable {w₀ w w' : World} {cs : List Call} {ks : List CollectorCall}

theorem of_noCalls (h : w₀.NoCalls w) : w₀.Took [] [] w := by
  rw [World.Took, h.1, h.2, List.append_nil, List.append_nil]
  exact ⟨rfl, rfl⟩

theorem noCalls (ht : w₀.Took cs ks w) (h : w.NoCalls w') : w₀.Took cs ks w' := by
  rw [World.Took, h.1, h.2]
  exact ht

theorem hostOnly (ht : w₀.Took cs ks w) (h : w.HostOnly w') : w₀.Took cs ks w' :=
  ht.noCalls h.noCalls

/-- A call the service takes goes at the end of its record. -/
theorem call {σ : ScriptedService} {c : Call} (ht : w₀.Took cs ks w)
    (hσ : σ.history = w.service.history.push c) : w₀.Took (cs ++ [c]) ks { w with service := σ } :=
  ⟨by rw [hσ, Array.toList_push, ht.1, List.append_assoc], ht.2⟩

/-- An invocation the collector takes goes at the end of its record. -/
theorem invoke (ht : w₀.Took cs ks w) (k : CollectorCall) :
    w₀.Took cs (ks ++ [k]) { w with collectorCalls := w.collectorCalls.push k } :=
  ⟨ht.1, by rw [Array.toList_push, ht.2, List.append_assoc]⟩

/-- The calls taken are what the service's record gained. -/
theorem calls_eq (ht : w₀.Took cs ks w) :
    w.service.history.toList.drop w₀.service.history.size = cs := by
  rw [ht.1, ← Array.length_toList, List.drop_left]

/-- The invocations taken are what the collector's record gained. -/
theorem invoked_eq (ht : w₀.Took cs ks w) :
    w.collectorCalls.toList.drop w₀.collectorCalls.size = ks := by
  rw [ht.2, ← Array.length_toList, List.drop_left]

end World.Took

/-- Since `w₀` the service took a prefix of the calls `cs`, and the collector nothing. -/
def World.TookPrefix (w₀ : World) (cs : List Call) (w : World) : Prop :=
  ∃ p, p <+: cs ∧ w₀.Took p [] w

namespace World.TookPrefix

variable {w₀ w w' : World} {cs cs' : List Call}

theorem of_took (ht : w₀.Took cs [] w) : w₀.TookPrefix cs w := ⟨cs, List.prefix_refl cs, ht⟩

theorem of_nil (ht : w₀.Took [] [] w) : w₀.TookPrefix cs w := ⟨[], List.nil_prefix, ht⟩

theorem mono (h : w₀.TookPrefix cs w) (hc : cs <+: cs') : w₀.TookPrefix cs' w :=
  let ⟨p, hp, ht⟩ := h
  ⟨p, hp.trans hc, ht⟩

end World.TookPrefix

/-- A step of the host alone keeps what was taken. -/
theorem World.Took.keeps {α : Type} {w₀ : World} {cs : List Call} {ks : List CollectorCall}
    {act : Agent α} (h : Within World.HostOnly act) : Keeps (w₀.Took cs ks) act :=
  h.keeps fun _ _ hh ht => ht.hostOnly hh

/-- A line in the journal is a step of the host alone, and never fails. -/
theorem World.HostOnly.log_triple {w₀ : World} {E : World → Prop} (l : Level) (m : String) :
    Triple w₀.HostOnly (log l m) (fun _ => w₀.HostOnly) E := fun w hw => by
  show w₀.HostOnly ((log l m).run w).2
  rw [run_log]
  exact hw.trans (.of_logOnly (World.LogOnly.withJournal w _))

/-! ## The registration step -/

theorem World.HostOnly.afterCheckWorld {w₀ w : World} (h : w₀.HostOnly w) :
    (afterCheckWorld w₀).HostOnly (afterCheckWorld w) := by
  unfold World.HostOnly at h ⊢
  unfold HostAgent.afterCheckWorld
  rw [h]

/-- The status check is the one call taken on the way to `afterCheckWorld`. -/
theorem took_afterCheckWorld (w₀ : World) :
    w₀.Took [Call.checkRegistration w₀.service.registered] [] (afterCheckWorld w₀) :=
  (World.Took.of_noCalls (World.NoCalls.refl w₀)).call rfl

namespace Registrar

open Orchestrator

variable (r : Registrar) (req : RegistrationRequest) (w₀ : World)

/-- The status check answers the service's script, and is the one call taken. -/
theorem checkRegistration_calls (hr : r.remote = .scripted) :
    Triple w₀.HostOnly r.remote.checkRegistration
      (fun b w => w₀.service.registered = .ok b ∧ (afterCheckWorld w₀).HostOnly w)
      (w₀.Took [Call.checkRegistration w₀.service.registered] []) := by
  intro w hw
  have hafter := hw.afterCheckWorld
  have hreg : w.service.registered = w₀.service.registered := by rw [hw.service_eq]
  have htook := (took_afterCheckWorld w₀).hostOnly hafter
  rw [r.checkRegistration_scripted_run w hr, hreg]
  rcases hres : w₀.service.registered with f | b
  · rw [hres] at htook
    exact htook
  · exact ⟨rfl, hafter⟩

/-- **The legacy decision's calls**: none when the service knows the host or registering is not
asked; otherwise the registration, once the credentials resolve. -/
theorem decideLegacy_calls (hr : r.remote = .scripted) (identity : MachineIdentity) (b : Bool) :
    Triple (fun w => w₀.service.registered = .ok b ∧ (afterCheckWorld w₀).HostOnly w)
      (r.decideLegacy req identity b)
      (fun d w => w₀.TookPrefix (legacyCalls req.register w₀.service
          (credentialsResolve r.config w₀.env)) w ∧
        (d.mayProceed = true →
          w₀.Took (legacyCalls req.register w₀.service (credentialsResolve r.config w₀.env)) [] w))
      (w₀.TookPrefix (legacyCalls req.register w₀.service (credentialsResolve r.config w₀.env))) := by
  have hchecked : ∀ {w}, (afterCheckWorld w₀).HostOnly w →
      w₀.Took [Call.checkRegistration w₀.service.registered] [] w :=
    fun h => (took_afterCheckWorld w₀).hostOnly h
  cases b
  case true =>
    intro w hw
    obtain ⟨w', hrun, hlog⟩ := r.decideLegacy_known req identity (w := w)
    have hL : legacyCalls req.register w₀.service (credentialsResolve r.config w₀.env) =
        [Call.checkRegistration w₀.service.registered] := by
      simp [legacyCalls, hw.1]
    have ht := (hchecked hw.2).hostOnly (.of_logOnly hlog)
    rw [hrun, hL]
    exact ⟨.of_took ht, fun _ => ht⟩
  cases hreg : req.register
  case false =>
    intro w hw
    obtain ⟨w', hrun, hlog⟩ := r.decideLegacy_unasked req identity hreg (w := w)
    have hL : legacyCalls false w₀.service (credentialsResolve r.config w₀.env) =
        [Call.checkRegistration w₀.service.registered] := by
      simp [legacyCalls]
    rw [hrun, hL]
    exact ⟨.of_took ((hchecked hw.2).hostOnly (.of_logOnly hlog)), fun h => absurd h (by decide)⟩
  -- registering is asked: the credentials, then the call
  rw [r.decideLegacy_asked req identity hreg]
  refine Triple.bind (Q := fun _ w => w₀.service.registered = .ok false ∧
      (afterCheckWorld w₀).HostOnly w ∧ credentialsResolve r.config w₀.env = true) ?_ fun _ => ?_
  · intro w hw
    have hlog := resolveCredentials_logOnly r.config w
    have hok := resolveCredentials_isOk r.config w
    rw [hw.2.env_eq, show (afterCheckWorld w₀).env = w₀.env from rfl] at hok
    rcases hres : (resolveCredentials r.config).run w with ⟨e | c, w'⟩ <;> rw [hres] at hlog hok
    · have hL : legacyCalls true w₀.service (credentialsResolve r.config w₀.env) =
          [Call.checkRegistration w₀.service.registered] := by
        simp [legacyCalls, ← hok, Except.isOk, Except.toBool]
      rw [hL]
      exact .of_took ((hchecked hw.2).hostOnly (.of_logOnly hlog))
    · exact ⟨hw.1, hw.2.trans (.of_logOnly hlog), hok.symm⟩
  -- the registration call, taken whatever it answers
  intro w hw
  obtain ⟨hb, hw, hcred⟩ := hw
  have hL : legacyCalls true w₀.service (credentialsResolve r.config w₀.env) =
      [Call.checkRegistration w₀.service.registered,
        Call.register w₀.service.registerResult] := by
    simp [legacyCalls, hb, hcred]
  have hcall : Triple (afterCheckWorld w₀).HostOnly r.remote.register
      (fun _ => w₀.Took [Call.checkRegistration w₀.service.registered,
        Call.register w₀.service.registerResult] [])
      (w₀.Took [Call.checkRegistration w₀.service.registered,
        Call.register w₀.service.registerResult] []) :=
    Triple.of_world fun w hw => by
      rw [r.register_scripted_run hr]
      refine ((took_afterCheckWorld w₀).hostOnly hw).call ?_
      simp [ScriptedService.afterRegister, hw.service_eq, afterCheckWorld, ScriptedService.afterCheck]
  have htail : Keeps (w₀.Took [Call.checkRegistration w₀.service.registered,
      Call.register w₀.service.registerResult] []) (do
        r.store.markRegistered
        info ("Successfully registered " ++ r.hostName ++ " (machine id " ++ identity.text ++ ")")
        pure Decision.newlyRegistered) :=
    Keeps.bind (World.Took.keeps (r.store.writeMarker_hostOnly _)) fun _ =>
      Keeps.bind (World.Took.keeps (hostOnly_log _ _)) fun _ => Keeps.pure _
  rw [hL]
  exact (Triple.bind hcall fun _ => htail).mono (fun _ h => h) (fun _ _ ht => ⟨.of_took ht, fun _ => ht⟩)
    (fun _ ht => .of_took ht) w hw

/-- **The legacy registration step's calls**: a prefix of `legacyCalls`, all of them when the run
may go on. -/
theorem ensureLegacy_calls (hr : r.remote = .scripted) :
    Triple w₀.HostOnly (r.ensureLegacy req)
      (fun d w => w₀.TookPrefix (legacyCalls req.register w₀.service
          (credentialsResolve r.config w₀.env)) w ∧
        (d.mayProceed = true →
          w₀.Took (legacyCalls req.register w₀.service (credentialsResolve r.config w₀.env)) [] w))
      (w₀.TookPrefix (legacyCalls req.register w₀.service (credentialsResolve r.config w₀.env))) := by
  -- the status check opens the calls, whatever follows it
  have hcheck : ∀ {w}, w₀.Took [Call.checkRegistration w₀.service.registered] [] w →
      w₀.TookPrefix (legacyCalls req.register w₀.service (credentialsResolve r.config w₀.env)) w :=
    fun ht => World.TookPrefix.mono (.of_took ht) ⟨_, rfl⟩
  rw [ensureLegacy_eq]
  refine Triple.bind (((r.prepareLegacy_hostOnly req).keeps fun _ _ h hw => hw.trans h).mono
    (fun _ h => h) (fun _ _ h => h)
    fun _ hw => .of_nil (.of_noCalls hw.noCalls)) fun identity => ?_
  refine Triple.bind ((r.checkRegistration_calls w₀ hr).mono (fun _ h => h) (fun _ _ h => h)
    fun _ ht => hcheck ht) fun b => ?_
  refine Triple.bind (((r.reconcile_hostOnly b).keeps fun _ _ h hw => ⟨hw.1, hw.2.trans h⟩).mono
    (fun _ h => h) (fun _ _ h => h)
    fun _ hw => hcheck ((took_afterCheckWorld w₀).hostOnly hw.2)) fun _ => ?_
  exact r.decideLegacy_calls req w₀ hr identity b

/-- **The registration step's calls**, in either generation: a prefix of `registrationCalls`, all
of them when the run may go on. -/
theorem ensureRegistered_calls (hr : r.remote = .scripted) (c : AgentConfig)
    (hgen : r.generation = c.protocol) (hcfg : r.config = c) :
    Triple w₀.HostOnly
      (r.ensureRegistered { forceReregister := c.reregister, register := c.register || c.reregister })
      (fun d w => w₀.TookPrefix (registrationCalls c w₀.service (credentialsResolve c w₀.env)) w ∧
        (d.mayProceed = true →
          w₀.Took (registrationCalls c w₀.service (credentialsResolve c w₀.env)) [] w))
      (w₀.TookPrefix (registrationCalls c w₀.service (credentialsResolve c w₀.env))) := by
  unfold ensureRegistered registrationCalls
  rw [hgen]
  cases c.protocol
  case legacy =>
    have h := r.ensureLegacy_calls
      { forceReregister := c.reregister, register := c.register || c.reregister } w₀ hr
    rw [hcfg] at h
    exact h
  case modern =>
    -- a line in the journal, and no call
    refine Triple.bind (World.HostOnly.log_triple _ _) fun _ => ?_
    exact Triple.pure fun _ hw => ⟨.of_nil (.of_noCalls hw.noCalls), fun _ => .of_noCalls hw.noCalls⟩

end Registrar

namespace Orchestrator

variable {w₀ : World}

/-- **Taking the rules online** calls the service once when they update and the collection is
not a core one, and not otherwise. -/
theorem rules_calls (o : Orchestrator) (hrem : o.remote = .scripted) (hoff : o.config.offline = false)
    (cs : List Call) :
    Triple (w₀.Took cs []) o.rules (fun _ => w₀.Took (cs ++ rulesCalls o.config) [])
      (w₀.TookPrefix (cs ++ rulesCalls o.config)) := by
  have hkeep : ∀ {α} {act : Agent α}, Within World.HostOnly act → o.config.autoUpdate = false ∨
      o.config.coreCollect = true → Triple (w₀.Took cs []) act
        (fun _ => w₀.Took (cs ++ rulesCalls o.config) [])
        (w₀.TookPrefix (cs ++ rulesCalls o.config)) := by
    intro α act h hnone
    have hnil : rulesCalls o.config = [] := by
      rcases hnone with h | h <;> simp [rulesCalls, h]
    rw [hnil, List.append_nil]
    exact (World.Took.keeps h).mono (fun _ h => h) (fun _ _ h => h) fun _ ht => .of_took ht
  unfold rules
  split
  · rename_i hcore
    exact hkeep (Within.bind (hostOnly_log _ _) fun _ => Within.pure _) (.inr hcore)
  split
  · rename_i hcore hauto
    have hfetch : rulesCalls o.config = [Call.fetchRules] := by
      simp only [hoff, Bool.not_false, Bool.and_true] at hauto
      simp [rulesCalls, hauto, hcore]
    rw [hfetch, hrem]
    -- the fetch is taken whatever it answers
    have hcall : Triple (w₀.Took cs []) Service.scripted.fetchRules
        (fun _ => w₀.Took (cs ++ [Call.fetchRules]) []) (w₀.Took (cs ++ [Call.fetchRules]) []) :=
      Triple.of_world fun w hw => by
        show w₀.Took (cs ++ [Call.fetchRules]) [] (ScriptedService.fetchRules.run w).2
        rw [ScriptedService.fetchRules_run]
        exact hw.call rfl
    exact (Triple.bind hcall fun _ => Keeps.bind (World.Took.keeps (hostOnly_log _ _)) fun _ =>
      Keeps.pure _).mono (fun _ h => h) (fun _ _ h => h) fun _ ht => .of_took ht
  · rename_i hcore hauto
    refine hkeep (hostOnly_of_logOnly (loadRules_logOnly _)) ?_
    simp only [hoff, Bool.not_false, Bool.and_true, Bool.not_eq_true] at hauto
    exact .inl hauto

end Orchestrator

/-! ## The collector and the upload -/

namespace Collection.Collector

variable {w₀ : World} {cs : List Call} {ks : List CollectorCall}

theorem canned_run_world (k : CannedCollector) (request : CollectionRequest) (w : World) :
    (((Collector.canned k).run request).run w).2 =
      { w with collectorCalls := w.collectorCalls.push (.run request) } := by
  cases h : k.failRun <;> simp [Collector.run, h, run_bind]

theorem canned_finalize_world (k : CannedCollector) (rules : Option CollectionRules)
    (removal : RemovalConfig) (w : World) :
    (((Collector.canned k).finalize rules removal).run w).2 =
      { w with collectorCalls := w.collectorCalls.push (.finalize rules removal) } := by
  cases h : k.failFinalize <;> simp [Collector.finalize, h, run_bind]

/-- A canned collector's run is one invocation, whatever it answers. -/
theorem canned_run_calls (k : CannedCollector) (request : CollectionRequest) :
    Triple (w₀.Took cs ks) ((Collector.canned k).run request)
      (fun _ => w₀.Took cs (ks ++ [CollectorCall.run request])) (w₀.Took cs (ks ++ [CollectorCall.run request])) :=
  Triple.of_world fun w hw => by
    rw [canned_run_world]
    exact hw.invoke _

/-- A canned collector's finish is one invocation, whatever it answers. -/
theorem canned_finalize_calls (k : CannedCollector) (rules : Option CollectionRules)
    (removal : RemovalConfig) :
    Triple (w₀.Took cs ks) ((Collector.canned k).finalize rules removal)
      (fun _ => w₀.Took cs (ks ++ [CollectorCall.finalize rules removal]))
      (w₀.Took cs (ks ++ [CollectorCall.finalize rules removal])) :=
  Triple.of_world fun w hw => by
    rw [canned_finalize_world]
    exact hw.invoke _

end Collection.Collector

/-- Since `w₀` the service took the calls `cs` and then at most `n` uploads, and the collector the
invocations `ks`. -/
def World.TookUploads (w₀ : World) (cs : List Call) (ks : List CollectorCall) (n : Nat)
    (w : World) : Prop :=
  ∃ m ≤ n, w₀.Took (cs ++ List.replicate m .uploadArchive) ks w

/-- One upload more. -/
theorem World.Took.upload {w₀ w : World} {cs : List Call} {ks : List CollectorCall} {m : Nat}
    (ht : w₀.Took (cs ++ List.replicate m Call.uploadArchive) ks w) (call : UploadCall) :
    w₀.Took (cs ++ List.replicate (m + 1) Call.uploadArchive) ks
      { w with service := w.service.afterUploads call 1 } :=
  ⟨by simp [ScriptedService.afterUploads, ht.1, List.replicate_succ'], ht.2⟩

namespace Uploader

variable (u : Uploader) {w₀ : World} {cs : List Call} {ks : List CollectorCall}

/-- One attempt's upload, taken whatever it answers. -/
theorem uploadArchive_took (hr : u.remote = .scripted) (a : Artifact) (hint : Option Time.Duration)
    (m : Nat) :
    Triple (w₀.Took (cs ++ List.replicate m Call.uploadArchive) ks)
      (capture (u.remote.uploadArchive a (u.generation.uploadContentType a) hint))
      (fun _ => w₀.Took (cs ++ List.replicate (m + 1) Call.uploadArchive) ks)
      (w₀.Took (cs ++ List.replicate (m + 1) Call.uploadArchive) ks) :=
  Triple.of_world fun w hw => by
    rw [run_capture (u.uploadArchive_run hr a hint w)]
    exact hw.upload _

/-- One attempt and what follows it stay within `N` uploads, when the attempts after it do. -/
theorem attemptsFrom_calls_of (hr : u.remote = .scripted) (a : Artifact) (hint : Option Time.Duration)
    (n left m N : Nat) (hN : m + left + 1 ≤ N)
    (hnext : ∀ left', left = left' + 1 →
      Triple (w₀.Took (cs ++ List.replicate (m + 1) Call.uploadArchive) ks)
        (u.attemptsFrom a hint (n + 1) left') (fun _ => w₀.TookUploads cs ks N)
        (w₀.TookUploads cs ks N)) :
    Triple (w₀.Took (cs ++ List.replicate m Call.uploadArchive) ks) (u.attemptsFrom a hint n left)
      (fun _ => w₀.TookUploads cs ks N) (w₀.TookUploads cs ks N) := by
  -- after this attempt's upload, every step but the next attempt is the host's alone
  have hwithin : w₀.Took (cs ++ List.replicate (m + 1) Call.uploadArchive) ks ≤ w₀.TookUploads cs ks N :=
    fun _ ht => ⟨m + 1, by omega, ht⟩
  have hdone : ∀ {β} {act : Agent β}, Within World.HostOnly act →
      Triple (w₀.Took (cs ++ List.replicate (m + 1) Call.uploadArchive) ks) act
        (fun _ => w₀.Took (cs ++ List.replicate (m + 1) Call.uploadArchive) ks) (w₀.TookUploads cs ks N) :=
    fun h => (World.Took.keeps h).mono (fun _ h => h) (fun _ _ h => h) hwithin
  have hend : ∀ {β} {act : Agent β}, Within World.HostOnly act →
      Triple (w₀.Took (cs ++ List.replicate (m + 1) Call.uploadArchive) ks) act
        (fun _ => w₀.TookUploads cs ks N) (w₀.TookUploads cs ks N) :=
    fun h => (hdone h).mono (fun _ h => h) (fun _ => hwithin) fun _ h => h
  unfold attemptsFrom
  refine Triple.bind ((u.uploadArchive_took hr a hint m).mono (fun _ h => h) (fun _ _ h => h) hwithin)
    fun result => Triple.bind (hdone (hostOnly_of_logOnly (u.judge_logOnly result))) fun verdict => ?_
  split
  · exact hend (u.finish_hostOnly _ _)
  · exact hend (Within.bind (hostOnly_log _ _) fun _ => Within.bind (hostOnly_log _ _) fun _ =>
      Within.throw _)
  · refine Triple.bind (hdone (hostOnly_log _ _)) fun _ => ?_
    split
    · exact hend (Within.bind (hostOnly_log _ _) fun _ => Within.bind (hostOnly_log _ _) fun _ =>
        Within.throw _)
    · exact Triple.bind (hdone (hostOnly_log _ _)) fun _ =>
        Triple.bind (hdone (u.sleeper.sleep_hostOnly _)) fun _ => hnext _ rfl

/-- **The upload loop makes at most one upload an attempt**, and no other call. -/
theorem attemptsFrom_calls (hr : u.remote = .scripted) (a : Artifact) (hint : Option Time.Duration)
    (N left : Nat) :
    ∀ n m, m + left + 1 ≤ N → Triple (w₀.Took (cs ++ List.replicate m Call.uploadArchive) ks)
      (u.attemptsFrom a hint n left) (fun _ => w₀.TookUploads cs ks N) (w₀.TookUploads cs ks N) := by
  -- on the attempts left: the loop goes on with one fewer and one upload more
  induction left with
  | zero =>
    exact fun n m hN => u.attemptsFrom_calls_of hr a hint n 0 m N hN fun _ h => absurd h (by omega)
  | succ left ih =>
    exact fun n m hN => u.attemptsFrom_calls_of hr a hint n (left + 1) m N hN fun left' h => by
      rw [← Nat.succ_inj.mp h]
      exact ih (n + 1) (m + 1) (by omega)

/-- **An upload makes at most `max retries 1` upload calls**, and no other call. -/
theorem upload_calls (hr : u.remote = .scripted) (a : Artifact) (hint : Option Time.Duration) :
    Triple (w₀.Took cs ks) (u.upload a hint) (fun _ => w₀.TookUploads cs ks (max u.retries 1))
      (w₀.TookUploads cs ks (max u.retries 1)) := by
  have hzero : w₀.Took cs ks = w₀.Took (cs ++ List.replicate 0 Call.uploadArchive) ks := by
    rw [List.replicate_zero, List.append_nil]
  unfold upload
  rw [hzero]
  exact Triple.bind ((World.Took.keeps (hostOnly_log _ _)).mono (fun _ h => h) (fun _ _ h => h)
    fun _ ht => ⟨0, Nat.zero_le _, ht⟩) fun _ => u.attemptsFrom_calls hr a hint _ _ 1 0 (by omega)

end Uploader

/-! ## The run -/

/-- Settings that pass validation and work offline do not unregister. -/
theorem AgentConfig.unregister_of_offline {c : AgentConfig} (hval : c.validate = .ok ())
    (hoff : c.offline = true) : c.unregister = false := by
  unfold AgentConfig.validate at hval
  cases hun : c.unregister
  · rfl
  · simp only [hoff, hun, Bool.not_true, Bool.false_and, Bool.and_self, Bool.false_eq_true,
      ↓reduceIte, beq_iff_eq] at hval
    split at hval <;> cases hval

namespace Orchestrator

variable {w₀ w : World} {cs : List Call} {n : Nat}

/-- Since `w₀`, the calls and invocations of a run that registers, collects and uploads came in
the order `InOrder` allows. -/
def RanInOrder (w₀ : World) (cs : List Call) (n : Nat) (w : World) : Prop :=
  w₀.TookPrefix cs w ∨ (∃ request, w₀.Took cs [.run request] w) ∨
    ∃ request rules removal, w₀.TookUploads cs [.run request, .finalize rules removal] n w

theorem RanInOrder.of_tookPrefix (h : w₀.TookPrefix cs w) : RanInOrder w₀ cs n w := .inl h

theorem RanInOrder.of_run {request : CollectionRequest} (h : w₀.Took cs [CollectorCall.run request] w) :
    RanInOrder w₀ cs n w :=
  .inr (.inl ⟨request, h⟩)

theorem RanInOrder.of_uploads {request : CollectionRequest} {rules : Option CollectionRules}
    {removal : RemovalConfig} (h : w₀.TookUploads cs [.run request, .finalize rules removal] n w) :
    RanInOrder w₀ cs n w :=
  .inr (.inr ⟨request, rules, removal, h⟩)

theorem RanInOrder.inOrder (h : RanInOrder w₀ cs n w) :
    InOrder cs n (w.service.history.toList.drop w₀.service.history.size)
      (w.collectorCalls.toList.drop w₀.collectorCalls.size) := by
  rcases h with ⟨p, hp, ht⟩ | ⟨request, ht⟩ | ⟨request, rules, removal, m, hm, ht⟩
  · exact .inl ⟨by rw [ht.calls_eq]; exact hp, ht.invoked_eq⟩
  · exact .inr (.inl ⟨ht.calls_eq, request, ht.invoked_eq⟩)
  · exact .inr (.inr ⟨⟨request, rules, removal, ht.invoked_eq⟩, m, hm, ht.calls_eq⟩)

/-- **Online, the collection and delivery come after the registration's calls `cs`**: the
rules' calls, then the collector's run and its finish, then at most `max retries 1` uploads. -/
theorem collectAndDeliver_inOrder (o : Orchestrator) (k : CannedCollector)
    (hrem : o.remote = .scripted) (hup : o.uploader.remote = .scripted) (hcol : o.collector = .canned k)
    (hoff : o.config.offline = false) (cs : List Call) :
    Triple (w₀.Took cs []) o.collectAndDeliver
      (fun _ => RanInOrder w₀ (cs ++ rulesCalls o.config) (max o.uploader.retries 1))
      (RanInOrder w₀ (cs ++ rulesCalls o.config) (max o.uploader.retries 1)) := by
  -- the steps of the host alone before the collection keep what was taken, and a failed one
  -- ends the run with a prefix of the calls
  have hkeep : ∀ {β} {act : Agent β} {cs' : List Call}, Within World.HostOnly act →
      cs' <+: cs ++ rulesCalls o.config →
      Triple (w₀.Took cs' []) act (fun _ => w₀.Took cs' [])
        (RanInOrder w₀ (cs ++ rulesCalls o.config) (max o.uploader.retries 1)) :=
    fun h hcs => (World.Took.keeps h).mono (fun _ h => h) (fun _ _ h => h)
      fun _ ht => .of_tookPrefix ((World.TookPrefix.of_took ht).mono hcs)
  unfold Orchestrator.collectAndDeliver
  simp only [hoff, Bool.false_eq_true, ↓reduceIte]
  -- the rules, the last calls before the collection
  refine Triple.bind ((o.rules_calls hrem hoff cs).mono (fun _ h => h) (fun _ _ h => h)
    fun _ h => .of_tookPrefix h) fun rules => ?_
  refine Triple.bind (hkeep (hostOnly_of_logOnly (loadRemovalConfig_logOnly _)) (List.prefix_refl _))
    fun removal => ?_
  split
  on_goal 1 => refine Triple.bind (hkeep (hostOnly_log _ _) (List.prefix_refl _)) fun _ => ?_
  -- the collection, its finish and the upload, taken in this order
  all_goals
    rw [hcol]
    refine Triple.bind (hkeep (hostOnly_log _ _) (List.prefix_refl _)) fun _ => ?_
    refine Triple.bind ((Collector.canned_run_calls k _).mono (fun _ h => h) (fun _ _ h => h)
      fun _ h => .of_run h) fun artifact => ?_
    refine Triple.bind ((Collector.canned_finalize_calls k rules removal).mono (fun _ h => h)
      (fun _ _ h => h) fun _ h => .of_uploads ⟨0, Nat.zero_le _, by simpa using h⟩) fun _ => ?_
    refine Triple.bind ((o.uploader.upload_calls hup artifact artifact.duration).mono (fun _ h => h)
      (fun _ _ h => RanInOrder.of_uploads h) fun _ h => .of_uploads h) fun _ => ?_
    exact Triple.pure fun _ h => h

theorem run_inOrder (o : Orchestrator) (k : CannedCollector) (hrem : o.remote = .scripted)
    (hreg : o.registrar.remote = .scripted) (hgen : o.registrar.generation = o.config.protocol)
    (hcfg : o.registrar.config = o.config) (hup : o.uploader.remote = .scripted)
    (hcol : o.collector = .canned k) (hval : o.config.validate = .ok ())
    (hun : o.config.unregister = false) (hoff : o.config.offline = false) (w₀ : World) :
    Triple w₀.HostOnly o.run
      (fun _ => RanInOrder w₀ (registrationCalls o.config w₀.service
        (credentialsResolve o.config w₀.env) ++ rulesCalls o.config) (max o.uploader.retries 1))
      (RanInOrder w₀ (registrationCalls o.config w₀.service
        (credentialsResolve o.config w₀.env) ++ rulesCalls o.config) (max o.uploader.retries 1)) := by
  rw [o.run_eq_runChecked hval]
  unfold runChecked
  simp only [hun, hoff, Bool.false_and, Bool.not_false, Bool.false_eq_true, ↓reduceIte]
  refine Triple.bind (World.HostOnly.log_triple _ _) fun _ => ?_
  -- the registration step, which ends the run unless it may go on
  refine Triple.bind ((o.registrar.ensureRegistered_calls w₀ hreg o.config hgen hcfg).mono
    (fun _ h => h) (fun _ _ h => h) fun _ h => .of_tookPrefix (h.mono (List.prefix_append _ _)))
    fun d => ?_
  split
  · exact Triple.pure fun _ hw => .of_tookPrefix (hw.1.mono (List.prefix_append _ _))
  rename_i hgo
  exact (o.collectAndDeliver_inOrder k hrem hup hcol hoff _).mono
    (fun _ hw => hw.2 (by simpa using hgo)) (fun _ _ h => h) fun _ h => h

/-- **A run the settings refuse calls nothing**: settings that fail validation, and an offline run
asked to update its rules, end with at most a line in the journal. -/
theorem run_refused (o : Orchestrator)
    (h : o.config.validate ≠ .ok () ∨ (o.config.offline && o.config.autoUpdate) = true) :
    Triple (· = w₀) o.run (fun _ => w₀.LogOnly) w₀.LogOnly := by
  rcases hval : o.config.validate with e | ⟨⟩
  · rw [o.run_eq_throw hval]
    exact Triple.throw fun _ hw => hw ▸ .refl _
  have hrefused : (o.config.offline && o.config.autoUpdate) = true := h.resolve_left (· hval)
  have hun := AgentConfig.unregister_of_offline hval ((Bool.and_eq_true _ _).mp hrefused).1
  rw [o.run_eq_runChecked hval]
  unfold runChecked
  simp only [hun, hrefused, Bool.false_eq_true, ↓reduceIte]
  refine Triple.bind (Triple.of_world fun _ hw => hw ▸ logOnly_log _ _ _) fun _ => ?_
  exact Triple.throw_bind _ _ fun _ h => h

/-- **Unregistering calls the service as `unregisterCalls` says**, and no collector. -/
theorem run_unregisters (o : Orchestrator) (hreg : o.registrar.remote = .scripted)
    (hgen : o.registrar.generation = o.config.protocol) (hval : o.config.validate = .ok ())
    (hun : o.config.unregister = true) :
    Triple w₀.HostOnly o.run (fun _ => w₀.Took (unregisterCalls o.config w₀.service) [])
      (w₀.Took (unregisterCalls o.config w₀.service) []) := by
  rw [o.run_eq_runChecked hval]
  unfold runChecked
  simp only [hun, ↓reduceIte]
  refine Triple.bind (World.HostOnly.log_triple _ _) fun _ => ?_
  refine Triple.bind (Q := fun _ => w₀.Took (unregisterCalls o.config w₀.service) [])
    (Triple.of_world fun w hw => ?_) fun _ => Triple.pure fun _ h => h
  have hchecked := (took_afterCheckWorld w₀).hostOnly hw.afterCheckWorld
  unfold Registrar.unregister unregisterCalls
  rw [hgen]
  cases o.config.protocol
  case legacy =>
    have hcalls := o.registrar.unregisterLegacy_noCalls o.config.force w hreg
    rw [hw.service_eq] at hcalls
    by_cases htrue : w₀.service.registered = .ok true
    · rw [if_pos htrue] at hcalls ⊢
      -- the unregister call after the status check
      refine (hchecked.call (c := .unregister w₀.service.unregisterResult) ?_).noCalls hcalls
      simp [afterCheckWorld, ScriptedService.afterCheck, ScriptedService.afterUnregister, hw.service_eq]
    · rw [if_neg htrue] at hcalls ⊢
      exact hchecked.noCalls hcalls
  case modern =>
    have hcalls := o.registrar.unregisterModern_noCalls o.config.force w hreg
    refine ((World.Took.of_noCalls (World.NoCalls.refl w₀)).hostOnly hw |>.call
      (c := .unregister w₀.service.unregisterResult) ?_).noCalls hcalls
    simp [ScriptedService.afterUnregister, hw.service_eq]

/-- Offline the rules come from the local file or not at all. -/
theorem rules_logOnly_offline (o : Orchestrator) (hoff : o.config.offline = true) :
    Within World.LogOnly o.rules := by
  unfold rules
  split
  · exact Within.bind (logOnly_log _ _) fun _ => Within.pure _
  split
  · rename_i hfetch
    simp [hoff] at hfetch
  · exact loadRules_logOnly _

/-- **Offline, the collection calls nothing and writes no file**: a canned collector only records
its invocations. -/
theorem collectAndDeliver_offline (o : Orchestrator) (k : CannedCollector)
    (hcol : o.collector = .canned k) (hoff : o.config.offline = true) :
    Keeps (fun w => w.service = w₀.service ∧ w.files = w₀.files) o.collectAndDeliver := by
  -- what the journal and a canned collector change leaves the service and the files alone
  have hstay : ∀ {β} {act : Agent β}, Within World.LogOnly act →
      Keeps (fun w => w.service = w₀.service ∧ w.files = w₀.files) act :=
    fun h => h.keeps fun _ _ hl hw => by rw [hl]; exact hw
  have hrun : ∀ request, Keeps (fun w => w.service = w₀.service ∧ w.files = w₀.files)
      ((Collector.canned k).run request) :=
    fun request => Triple.of_world fun w hw => by rw [Collector.canned_run_world]; exact hw
  have hfinalize : ∀ rules removal, Keeps (fun w => w.service = w₀.service ∧ w.files = w₀.files)
      ((Collector.canned k).finalize rules removal) :=
    fun rules removal => Triple.of_world fun w hw => by
      rw [Collector.canned_finalize_world]
      exact hw
  unfold collectAndDeliver
  simp only [hoff, ↓reduceIte]
  refine Keeps.bind (hstay (rules_logOnly_offline o hoff)) fun rules =>
    Keeps.bind (hstay (loadRemovalConfig_logOnly _)) fun removal => ?_
  split
  on_goal 1 => refine Keeps.bind (hstay (logOnly_log _ _)) fun _ => ?_
  -- the collection and its finish, and the archive's path in the journal
  all_goals
    rw [hcol]
    exact Keeps.bind (hstay (logOnly_log _ _)) fun _ => Keeps.bind (hrun _) fun _ =>
      Keeps.bind (hfinalize _ _) fun _ => Keeps.bind (hstay (logOnly_log _ _)) fun _ => Keeps.pure _

/-- **An offline run calls nothing and writes no file**: the service and the files end as they
were. -/
theorem run_offline (o : Orchestrator) (k : CannedCollector) (hcol : o.collector = .canned k)
    (hoff : o.config.offline = true) :
    Triple (· = w₀) o.run (fun _ w => w.service = w₀.service ∧ w.files = w₀.files)
      (fun w => w.service = w₀.service ∧ w.files = w₀.files) := by
  rcases hval : o.config.validate with e | ⟨⟩
  · rw [o.run_eq_throw hval]
    exact Triple.throw fun _ hw => hw ▸ ⟨rfl, rfl⟩
  have hun := AgentConfig.unregister_of_offline hval hoff
  rw [o.run_eq_runChecked hval]
  refine Triple.mono (P := fun w => w.service = w₀.service ∧ w.files = w₀.files) ?_
    (fun _ hw => hw ▸ ⟨rfl, rfl⟩) (fun _ _ h => h) fun _ h => h
  unfold runChecked
  simp only [hun, hoff, Bool.true_and, Bool.not_true, Bool.false_eq_true, ↓reduceIte]
  refine Keeps.bind ((logOnly_log _ _).keeps fun _ _ hl hw => by rw [hl]; exact hw) fun _ => ?_
  split
  · exact Keeps.throw_bind _ _
  · exact o.collectAndDeliver_offline k hcol hoff

/-- A run over the scripted service and a canned collector, as assembled from the settings. -/
theorem create_scripted (c : AgentConfig) (k : CannedCollector) (sleeper : Sleeper)
    (scheduler : Scheduler) (w : World) : ∃ o : Orchestrator,
    (create c .scripted (.canned k) sleeper scheduler).run w = (.ok o, w) ∧ o.config = c ∧
      o.remote = .scripted ∧ o.collector = .canned k ∧ o.registrar.remote = .scripted ∧
      o.registrar.generation = c.protocol ∧ o.registrar.config = c ∧
      o.uploader.remote = .scripted ∧ o.uploader.retries = max c.retries 1 := by
  obtain ⟨system, hcreate⟩ := create_run c .scripted (.canned k) sleeper scheduler w
  exact ⟨_, hcreate, rfl, rfl, rfl, rfl, rfl, rfl, rfl, rfl⟩

end Orchestrator

/-! ## The calls of one invocation -/

open Orchestrator

/-- **The calls one run makes, in order.** For every setting, every script of the service and of
a canned collector, and every world, what the run adds to the service's record of calls and to
the collector's record of invocations is:

* nothing, with every file as it was, when the settings fail validation or ask an offline run
  to update its rules;
* `unregisterCalls` and no invocation when the settings unregister: the status check and then
  the unregister call exactly when the check answered `true` (legacy), the unregister call
  alone (modern);
* no call, with every file as it was, offline;
* otherwise as `InOrder` says: a prefix of the registration's calls and the rules' while the
  collector has not run, all of them once it has, and at most `max retries 1` uploads after them
  once it has also finished. -/
theorem run_calls_in_order (c : AgentConfig) (k : CannedCollector) (sleeper : Sleeper)
    (scheduler : Scheduler) (w : World) :
    let out := ((Orchestrator.create c .scripted (.canned k) sleeper scheduler >>=
      Orchestrator.run).run w).2
    let calls := out.service.history.toList.drop w.service.history.size
    let invoked := out.collectorCalls.toList.drop w.collectorCalls.size
    ((c.validate ≠ .ok () ∨ (c.offline && c.autoUpdate) = true) →
        calls = [] ∧ invoked = [] ∧ out.files = w.files) ∧
      (c.validate = .ok () → c.unregister = true →
        calls = unregisterCalls c w.service ∧ invoked = []) ∧
      (c.offline = true → calls = [] ∧ out.files = w.files) ∧
      (c.validate = .ok () → c.unregister = false → c.offline = false →
        InOrder (registrationCalls c w.service (credentialsResolve c w.env) ++ rulesCalls c)
          (max c.retries 1) calls invoked) := by
  intro out calls invoked
  obtain ⟨o, hcreate, rfl, hrem, hcol, hreg, hgen, hcfg, hup, hret⟩ :=
    create_scripted c k sleeper scheduler w
  have hout : out = (o.run.run w).2 := by
    show ((create o.config .scripted (.canned k) sleeper scheduler >>= Orchestrator.run).run w).2 = _
    rw [run_bind_ok hcreate]
  refine ⟨fun h => ?_, fun hval hun => ?_, fun hoff => ?_, fun hval hun hoff => ?_⟩
  · have hlog : w.LogOnly out := hout ▸ Ends.world (run_refused o h w rfl)
    have ht := World.Took.of_noCalls (World.NoCalls.of_logOnly hlog)
    exact ⟨ht.calls_eq, ht.invoked_eq, hlog.files_eq⟩
  · have ht : w.Took (unregisterCalls o.config w.service) [] out :=
      hout ▸ Ends.world (run_unregisters o hreg hgen hval hun w (World.HostOnly.refl w))
    exact ⟨ht.calls_eq, ht.invoked_eq⟩
  · have hsame : out.service = w.service ∧ out.files = w.files :=
      hout ▸ Ends.world (run_offline o k hcol hoff w rfl)
    refine ⟨?_, hsame.2⟩
    show out.service.history.toList.drop w.service.history.size = []
    rw [hsame.1, ← Array.length_toList, List.drop_length]
  · have hran := hout ▸ Ends.world
      (run_inOrder o k hrem hreg hgen hcfg hup hcol hval hun hoff w w (World.HostOnly.refl w))
    have hN : max o.uploader.retries 1 = max o.config.retries 1 := by
      rw [hret]
      omega
    rw [hN] at hran
    exact hran.inOrder

/-- The default settings pass validation and neither unregister nor work offline, so their run's
calls come in the order `InOrder` allows. -/
theorem run_calls_in_order_default :
    let w : World := {}
    let out := ((Orchestrator.create {} .scripted (.canned { archive := "archive.tgz" }) .recording
      .immutable >>=
      Orchestrator.run).run w).2
    ({} : AgentConfig).validate = .ok () ∧
      InOrder (registrationCalls {} w.service (credentialsResolve {} w.env) ++ rulesCalls {})
        (max ({} : AgentConfig).retries 1) (out.service.history.toList.drop w.service.history.size)
        (out.collectorCalls.toList.drop w.collectorCalls.size) :=
  ⟨by decide, (run_calls_in_order {} { archive := "archive.tgz" } .recording .immutable {}).2.2.2
    (by decide) rfl rfl⟩

end HostAgent
