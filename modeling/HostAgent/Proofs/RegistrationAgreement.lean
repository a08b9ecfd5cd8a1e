import HostAgent.Proofs.LegacyRegistration
import HostAgent.Proofs.CleanupOutcome

/-!
# The registered marker agrees with the service, and nothing registers twice

One state directory and one scripted service are shared by any sequence of runs, of either
generation and with any settings. Two things hold after every run.

* A registered marker that is a regular file stands for a host the service has registered,
  when that was so before the first run (`Store.StateStore.Agrees`). The marker appears only
  when the service has just said the host is registered, or has just registered it; the service
  forgets the host only in a confirmed unregistration, after which clean-up deletes the marker.
* Once a registration has succeeded, no registration call is made until an unregistration is
  confirmed (`Remote.RegistersOnce`). The service's history says whether a registration holds
  (`Remote.held`), and while one holds the service answers that the host is registered
  (`ScriptedService.Settled`); a registration call follows only an answer that it is not.

Both need a state directory named without `..`. Through `s/n/..` with `n` missing the registered
marker is no file until a run creates `n`, and then it is one that the service never registered
(`registered_marker_through_missing_dir`).
-/

namespace HostAgent

open HostAgent.Host HostAgent.Store HostAgent.Remote HostAgent.Config HostAgent.Collection
open Agent Store.StateStore

/-! ## The history of calls -/

namespace Remote

/-- Whether the host is held registered after one more call: a registration that succeeded
holds it, a confirmed unregistration releases it, and every other call leaves it. -/
def Call.heldAfter (held : Bool) : Call → Bool
  | .register (.ok _) => true
  | .unregister (.ok true) => false
  | _ => held

/-- Whether the host is held registered after the calls `cs`. -/
def held (cs : List Call) : Bool := cs.foldl Call.heldAfter false

/-- **No second registration** in the calls `cs`: between a registration that succeeded and any
later registration call stands a confirmed unregistration. -/
def RegistersOnce (cs : List Call) : Prop :=
  ∀ (pre mid post : List Call) (u : Unit) (a : Scripted Unit),
    cs = pre ++ Call.register (.ok u) :: (mid ++ Call.register a :: post) →
    Call.unregister (.ok true) ∈ mid

@[simp] theorem held_nil : held [] = false := rfl

theorem held_append_singleton (cs : List Call) (c : Call) :
    held (cs ++ [c]) = Call.heldAfter (held cs) c := by
  simp [held, List.foldl_append]

/-- Where a call of a history with one more call at its end stands: it is the new call, or it
stands in the old history. -/
theorem append_cons_eq_snoc {pre post cs : List Call} {x c : Call}
    (h : pre ++ x :: post = cs ++ [c]) :
    (post = [] ∧ x = c ∧ pre = cs) ∨ ∃ post', post = post' ++ [c] ∧ cs = pre ++ x :: post' := by
  rcases List.eq_nil_or_concat post with rfl | ⟨post', b, rfl⟩
  · obtain ⟨hpre, hx⟩ := List.append_inj' h rfl
    exact .inl ⟨rfl, by simpa using hx, hpre⟩
  · have h' : (pre ++ x :: post') ++ [b] = cs ++ [c] := by simpa using h
    obtain ⟨hcs, hb⟩ := List.append_inj' h' rfl
    simp only [List.cons.injEq, and_true] at hb
    exact .inr ⟨post', by rw [hb, List.concat_eq_append], hcs.symm⟩

/-- Every successful registration in `cs` was followed by a confirmed unregistration. -/
def Released (cs : List Call) : Prop :=
  ∀ (pre post : List Call) (u : Unit), cs = pre ++ Call.register (.ok u) :: post →
    Call.unregister (.ok true) ∈ post

/-- One more call keeps every registration released exactly when it registers nothing, and it
confirms an unregistration or the registrations before it were released already. -/
theorem released_snoc_iff (cs : List Call) (c : Call) :
    Released (cs ++ [c]) ↔
      (∀ u, c ≠ Call.register (.ok u)) ∧ (c = Call.unregister (.ok true) ∨ Released cs) := by
  constructor
  · intro h
    refine ⟨fun u hc => ?_, ?_⟩
    · -- the new call is itself a registration that nothing followed
      have := h cs [] u (by rw [hc])
      simp at this
    · by_cases hc : c = Call.unregister (.ok true)
      · exact .inl hc
      · refine .inr fun pre post u hcs => ?_
        have hmem := h pre (post ++ [c]) u (by simp [hcs])
        rcases List.mem_append.1 hmem with hmem | hmem
        · exact hmem
        · exact absurd (List.mem_singleton.1 hmem).symm hc
  · rintro ⟨hreg, hrel⟩ pre post u hcs
    rcases append_cons_eq_snoc hcs.symm with ⟨-, hx, -⟩ | ⟨post', rfl, hcs'⟩
    · exact absurd hx.symm (hreg u)
    · rcases hrel with rfl | hrel
      · exact List.mem_append_right _ (List.mem_singleton_self _)
      · exact List.mem_append_left _ (hrel pre post' u hcs')

/-- **A registration holds exactly when one succeeded without a confirmed unregistration
after it.** -/
theorem held_eq_false_iff (cs : List Call) : held cs = false ↔ Released cs := by
  induction cs using List.reverseRecOn with
  | nil =>
    refine ⟨fun _ pre post u h => ?_, fun _ => rfl⟩
    simp at h
  | append_singleton cs c ih =>
    rw [held_append_singleton, released_snoc_iff, ← ih]
    rcases c with a | a | a | _ | _
    · simp [Call.heldAfter]
    · rcases a with f | u
      · simp [Call.heldAfter]
      · simp [Call.heldAfter]
    · rcases a with f | b
      · simp [Call.heldAfter]
      · cases b <;> simp [Call.heldAfter]
    · simp [Call.heldAfter]
    · simp [Call.heldAfter]

theorem registersOnce_nil : RegistersOnce [] := by
  intro pre mid post u a h
  simp at h

/-- A call keeps the history free of a second registration when, if it registers, no
registration holds. -/
theorem RegistersOnce.snoc {cs : List Call} {c : Call} (h : RegistersOnce cs)
    (hc : ∀ a, c = Call.register a → held cs = false) : RegistersOnce (cs ++ [c]) := by
  intro pre mid post u a heq
  have heq' : (pre ++ Call.register (.ok u) :: mid) ++ Call.register a :: post = cs ++ [c] := by
    simpa using heq.symm
  rcases append_cons_eq_snoc heq' with ⟨-, hx, hcs⟩ | ⟨post', rfl, hcs⟩
  · -- the new call is the second registration: the first was released before it
    exact (held_eq_false_iff cs).1 (hc a hx.symm) pre mid u hcs.symm
  · exact h pre mid post' u a (by simpa using hcs)

theorem Call.heldAfter_neutral {c : Call} (hc : c.Neutral) (b : Bool) : c.heldAfter b = b := by
  rcases c with a | a | a | _ | _
  · rfl
  · exact hc.elim
  · exact hc.elim
  · rfl
  · rfl

/-- Calls that neither register nor unregister leave what holds. -/
theorem held_append_neutral (cs : List Call) {more : List Call} (h : ∀ c ∈ more, c.Neutral) :
    held (cs ++ more) = held cs := by
  induction more using List.reverseRecOn with
  | nil => simp
  | append_singleton more c ih =>
    rw [← List.append_assoc, held_append_singleton,
      Call.heldAfter_neutral (h c (List.mem_append_right _ (List.mem_singleton_self _))),
      ih fun c' hc' => h c' (List.mem_append_left _ hc')]

theorem RegistersOnce.append_neutral {cs more : List Call} (h : RegistersOnce cs)
    (hmore : ∀ c ∈ more, c.Neutral) : RegistersOnce (cs ++ more) := by
  induction more using List.reverseRecOn with
  | nil => simpa using h
  | append_singleton more c ih =>
    rw [← List.append_assoc]
    refine (ih fun c' hc' => hmore c' (List.mem_append_left _ hc')).snoc fun a hc => ?_
    have := hmore c (List.mem_append_right _ (List.mem_singleton_self _))
    rw [hc] at this
    exact this.elim

end Remote

/-! ## A settled service -/

namespace Remote.ScriptedService

/-- **A settled service**: its history has no second registration, and while a registration
holds it answers that the host is registered. -/
structure Settled (σ : ScriptedService) : Prop where
  once : RegistersOnce σ.history.toList
  holds : held σ.history.toList = true → σ.registered = .ok true

namespace Settled

variable {σ σ' : ScriptedService}

/-- A service that has seen no call is settled, whatever its script. -/
theorem of_history_nil (h : σ.history.toList = []) : σ.Settled :=
  ⟨by rw [h]; exact registersOnce_nil, by rw [h, held_nil]; exact Bool.false_ne_true.elim⟩

/-- Calls that neither register nor unregister keep a service settled when they leave its
registration. -/
theorem of_neutral (h : σ.Settled) (hreg : σ'.registered = σ.registered) {more : List Call}
    (hhist : σ'.history.toList = σ.history.toList ++ more) (hmore : ∀ c ∈ more, c.Neutral) :
    σ'.Settled := by
  refine ⟨?_, fun hheld => ?_⟩
  · rw [hhist]
    exact h.once.append_neutral hmore
  · rw [hhist, held_append_neutral _ hmore] at hheld
    rw [hreg]
    exact h.holds hheld

theorem afterCheck (h : σ.Settled) : σ.afterCheck.Settled := by
  have hhist : σ.afterCheck.history.toList =
      σ.history.toList ++ [Call.checkRegistration σ.registered] := by
    simp [ScriptedService.afterCheck]
  exact h.of_neutral rfl hhist (by simp [Call.Neutral])

/-- **A registration call keeps the service settled when it follows the answer that the host is
not registered**: no registration holds then, and a successful one registers the host. -/
theorem afterRegister (h : σ.Settled) (hreg : σ.registered = .ok false) : σ.afterRegister.Settled := by
  have hfree : held σ.history.toList = false := by
    cases hheld : held σ.history.toList with
    | false => rfl
    | true =>
      rw [h.holds hheld] at hreg
      cases hreg
  have hhist : σ.afterRegister.history.toList = σ.history.toList ++ [Call.register σ.registerResult] := by
    simp [ScriptedService.afterRegister]
  refine ⟨?_, fun hheld => ?_⟩
  · rw [hhist]
    exact h.once.snoc fun _ _ => hfree
  · rw [hhist, held_append_singleton, hfree] at hheld
    rcases hres : σ.registerResult with f | u
    · rw [hres] at hheld
      cases hheld
    · simp [ScriptedService.afterRegister, hres, Except.isOk, Except.toBool]

/-- An unregister call keeps the service settled: a confirmed one releases the registration, and
any other answer leaves both the registration and what holds. -/
theorem afterUnregister (h : σ.Settled) : σ.afterUnregister.Settled := by
  have hhist : σ.afterUnregister.history.toList =
      σ.history.toList ++ [Call.unregister σ.unregisterResult] := by
    simp [ScriptedService.afterUnregister]
  refine ⟨?_, fun hheld => ?_⟩
  · rw [hhist]
    exact h.once.snoc fun _ hc => by cases hc
  · rw [hhist, held_append_singleton] at hheld
    by_cases hres : σ.unregisterResult = .ok true
    · rw [hres] at hheld
      cases hheld
    -- any other answer: the registration and what holds stay
    have hkeep : Call.heldAfter (held σ.history.toList) (.unregister σ.unregisterResult) =
        held σ.history.toList := by
      rcases hr : σ.unregisterResult with f | b
      · rfl
      · cases b
        · rfl
        · exact absurd hr hres
    rw [hkeep] at hheld
    simp only [ScriptedService.afterUnregister, hres, if_false]
    exact h.holds hheld

end Settled

end Remote.ScriptedService

/-! ## The markers agree with the service -/

namespace Store.StateStore

variable {s : StateStore} {w w' : World}

/-- **The registered marker agrees with a settled service**: the state directory is sound, and a
present registered marker stands for a host the service says is registered. -/
structure Agrees (s : StateStore) (w : World) : Prop where
  sound : s.Sound w.files w.cwd
  marker : s.Present w .registered → w.service.registered = .ok true
  settled : w.service.Settled

namespace Agrees

/-- A store step that lets no registered marker appear keeps the agreement. -/
theorem of_storeStep {A : Marker → Prop} (h : s.StoreStep A w w') (hA : ¬ A .registered)
    (ha : s.Agrees w) : s.Agrees w' := by
  refine ⟨h.sound ha.sound, fun hp => ?_, by rw [h.service_eq]; exact ha.settled⟩
  rw [h.service_eq]
  exact ha.marker (h.present ha.sound rfl hA hp)

/-- Any store step keeps the agreement while the service says the host is registered. -/
theorem of_storeStep_registered {A : Marker → Prop} (h : s.StoreStep A w w')
    (hreg : w.service.registered = .ok true) (ha : s.Agrees w) : s.Agrees w' :=
  ⟨h.sound ha.sound, fun _ => by rw [h.service_eq]; exact hreg, by rw [h.service_eq]; exact ha.settled⟩

theorem of_logOnly (h : w.LogOnly w') (ha : s.Agrees w) : s.Agrees w' :=
  ha.of_storeStep (StoreStep.of_logOnly (A := fun _ => False) h) id

/-- A quiet step keeps the agreement: no marker appears, and the service keeps its registration
and sees only calls that neither register nor unregister. -/
theorem of_quiet (h : Quiet s w w') (ha : s.Agrees w) : s.Agrees w' := by
  obtain ⟨more, hhist, hmore⟩ := h.history
  have hstep : s.StoreStep (fun _ => False) w { w' with service := w.service } :=
    ⟨h.cwd_eq, rfl, h.markers⟩
  refine ⟨hstep.sound ha.sound, fun hp => ?_, ha.settled.of_neutral h.registered_eq hhist hmore⟩
  rw [h.registered_eq]
  exact ha.marker (hstep.present ha.sound rfl id hp)

theorem of_absent (ha : s.Absent .registered w) (hset : w.service.Settled) : s.Agrees w :=
  ⟨ha.1, fun hp => absurd hp ha.2, hset⟩

/-- A new settled service keeps the agreement when it still holds the host registered wherever
the old one did. -/
theorem withService (ha : s.Agrees w) {σ : ScriptedService} (hset : σ.Settled)
    (hreg : w.service.registered = .ok true → σ.registered = .ok true) :
    s.Agrees { w with service := σ } :=
  ⟨ha.sound, fun hp => hreg (ha.marker hp), hset⟩

end Agrees

end Store.StateStore

namespace Remote.ScriptedService

/-- An unregister call that is not confirmed leaves the registration. -/
theorem afterUnregister_registered_of_ne {σ : ScriptedService} (h : σ.unregisterResult ≠ .ok true) :
    σ.afterUnregister.registered = σ.registered := by
  simp [afterUnregister, h]

end Remote.ScriptedService

/-! ## Unregistration -/

namespace LocalCleanup

variable (c : LocalCleanup)

/-- **A reported clean-up leaves the markers agreeing with any settled service**: its marker
write deletes the registered marker first, even when the write then fails, and what follows lets
no marker appear. -/
theorem agrees_of_reports (hs : c.store.Plain) {b : Bool} {w : World}
    {out : Except Fault Bool × World} (hsound : c.store.Sound w.files w.cwd)
    (hset : w.service.Settled) (hrep : c.Reports b w out) : c.store.Agrees out.2 := by
  have hmark : c.store.writeMarker .unregistered = c.store.markUnregistered := rfl
  have hex := writeMarker_excludes hs
    (show Marker.unregistered.exclusiveWith = some .registered from rfl) w hsound
  have hstep := writeMarker_within hs .unregistered w
  rw [hmark] at hex hstep
  unfold Reports at hrep
  rcases hm : c.store.markUnregistered.run w with ⟨e | u, w₁⟩ <;> rw [hm] at hrep hex hstep
  · rw [hrep]
    exact .of_absent hex (by rw [hstep.service_eq]; exact hset)
  · have hhouse := c.housekept_storeStep b w₁
    refine Agrees.of_logOnly hrep.2 (.of_absent (hhouse.absent rfl id hex) ?_)
    rw [hhouse.service_eq, hstep.service_eq]
    exact hset

end LocalCleanup

namespace Registrar

variable (r : Registrar)

/-- **Every unregistration keeps the agreement**, however it ends: the service forgets the host
only in a confirmed unregistration, which clean-up follows, and a forced clean-up deletes the
marker whatever the service said. -/
theorem unregister_agrees (hs : r.store.Plain) (hr : r.remote = .scripted)
    (hc : r.cleanup.store = r.store) (force : Bool) : Keeps r.store.Agrees (r.unregister force) := by
  refine Triple.of_world fun w ha => ?_
  -- a clean-up after lines in the journal, from the files of `w` and a settled service
  have hclean : ∀ {b : Bool} {w₁ w₂ : World}, w₁.LogOnly w₂ → w₁.files = w.files →
      w₁.cwd = w.cwd → w₁.service.Settled →
      r.cleanup.Reports b w₂ ((r.unregister force).run w) →
      r.store.Agrees ((r.unregister force).run w).2 := by
    intro b w₁ w₂ hlog hf hcwd hset hrep
    rw [← hc]
    refine r.cleanup.agrees_of_reports (hc ▸ hs) ?_ (by rw [hlog.service_eq]; exact hset) hrep
    rw [hlog.files_eq, hlog.cwd_eq, hf, hcwd, hc]
    exact ha.sound
  -- an unregister call that is not confirmed keeps the registration
  have hkept : ∀ {σ : ScriptedService}, σ.Settled → σ.unregisterResult ≠ .ok true →
      σ.registered = w.service.registered →
      r.store.Agrees { w with service := σ.afterUnregister } := fun hset hres hreg =>
    ha.withService hset.afterUnregister fun h =>
      (ScriptedService.afterUnregister_registered_of_ne hres).trans (hreg.trans h)
  unfold Registrar.unregister at hclean ⊢
  cases hg : r.generation with
  | legacy =>
    simp only [hg] at hclean ⊢
    rcases hchk : w.service.registered with f | known
    · cases force with
      | false =>
        rw [r.unregisterLegacy_check_fails w hr hchk]
        exact ha.withService ha.settled.afterCheck id
      | true =>
        obtain ⟨w₂, hlog, hrep⟩ := r.unregisterLegacy_check_forced w hr hchk
        exact hclean hlog rfl rfl ha.settled.afterCheck hrep
    cases known
    · obtain ⟨w₂, hlog, hrep⟩ := r.unregisterLegacy_unknown force w hr hchk
      exact hclean hlog rfl rfl ha.settled.afterCheck hrep
    rcases hres : w.service.unregisterResult with f | confirmed
    · rw [r.unregisterLegacy_call_fails force w hr hchk hres]
      exact hkept ha.settled.afterCheck (by simp [ScriptedService.afterCheck, hres]) rfl
    cases confirmed
    · exact (hkept ha.settled.afterCheck (by simp [ScriptedService.afterCheck, hres]) rfl).of_logOnly
        (r.unregisterLegacy_refused force w hr hchk hres).2
    · exact hclean (.refl (afterUnregisterWorld w)) rfl rfl ha.settled.afterCheck.afterUnregister
        (r.unregisterLegacy_confirmed force w hr hchk hres)
  | modern =>
    simp only [hg] at hclean ⊢
    by_cases hcl : w.service.unregisterResult = .ok true ∨ force = true
    · obtain ⟨w₂, hlog, hrep⟩ := r.unregisterModern_cleans force w hr hcl
      exact hclean hlog rfl rfl ha.settled.afterUnregister hrep
    -- neither confirmed nor forced: a refusal or a fault, with the registration kept
    obtain ⟨hres, hforce⟩ := not_or.1 hcl
    rw [Bool.not_eq_true] at hforce
    subst hforce
    rcases hres' : w.service.unregisterResult with f | confirmed
    · rw [r.unregisterModern_fails w hr hres']
      exact hkept ha.settled hres rfl
    cases confirmed
    · exact (hkept ha.settled hres rfl).of_logOnly (r.unregisterModern_refused w hr hres').2
    · exact absurd hres' hres

/-! ## Registration -/

/-- The status check keeps the agreement, and its answer is the registration the service
holds. -/
theorem checkRegistration_agrees (hr : r.remote = .scripted) :
    Triple r.store.Agrees r.remote.checkRegistration
      (fun b w => r.store.Agrees w ∧ w.service.registered = .ok b) r.store.Agrees := by
  intro w ha
  have ha' : r.store.Agrees (afterCheckWorld w) := ha.withService ha.settled.afterCheck id
  rw [r.checkRegistration_scripted_run w hr]
  rcases hchk : w.service.registered with f | b
  · exact ha'
  · exact ⟨ha', hchk⟩

/-- Bringing the markers in line with an answer that the host is not registered writes at most
the unregistered marker. -/
theorem reconcile_false_within (hs : r.store.Plain) :
    Within (r.store.StoreStep (· = .unregistered)) (r.reconcile false) :=
  r.reconcile_within_of within_log (fun h => absurd h Bool.false_ne_true)
    fun _ => writeMarker_within hs .unregistered

/-- Bringing the markers in line with the service's answer keeps the agreement: the registered
marker is written only on the answer that the host is registered. -/
theorem reconcile_agrees (hs : r.store.Plain) (b : Bool) :
    Keeps (fun w => r.store.Agrees w ∧ w.service.registered = .ok b) (r.reconcile b) := by
  cases b with
  | true =>
    exact (r.reconcile_within hs true).keeps fun _ _ h ⟨ha, hreg⟩ =>
      ⟨ha.of_storeStep_registered h hreg, by rw [h.service_eq]; exact hreg⟩
  | false =>
    exact (r.reconcile_false_within hs).keeps fun _ _ h ⟨ha, hreg⟩ =>
      ⟨ha.of_storeStep h (by simp), by rw [h.service_eq]; exact hreg⟩

variable (req : RegistrationRequest)

/-- **Registering keeps the agreement** after the answer that the host is not registered: no
registration holds then, and the registered marker follows only a registration that
succeeded. -/
theorem registerAsked_agrees (hs : r.store.Plain) (hr : r.remote = .scripted)
    (identity : MachineIdentity) (hask : req.register = true) :
    Triple (fun w => r.store.Agrees w ∧ w.service.registered = .ok false)
      (r.decideLegacy req identity false) (fun _ => r.store.Agrees) r.store.Agrees := by
  rw [r.decideLegacy_asked req identity hask]
  rintro w ⟨ha, hreg⟩
  rcases hcreds : (resolveCredentials r.config).run w with ⟨e | c, w₃⟩
  · rw [run_bind_error hcreds]
    exact ha.of_logOnly (Within.of_run (resolveCredentials_logOnly r.config) hcreds)
  have hlo := Within.of_run (resolveCredentials_logOnly r.config) hcreds
  have hreg₃ : w₃.service.registered = .ok false := by rw [hlo.service_eq]; exact hreg
  rw [run_bind_ok hcreds]
  -- the service's answer: no marker yet, and a settled service whatever it answered
  set w₄ : World := { w₃ with service := w₃.service.afterRegister } with hw₄
  have ha₃ := ha.of_logOnly hlo
  have ha₄ : r.store.Agrees w₄ :=
    ⟨ha₃.sound, fun hp => absurd (ha₃.marker hp) (by rw [hreg₃]; simp),
      ha₃.settled.afterRegister hreg₃⟩
  have hcall := r.register_scripted_run hr w₃
  rcases hres : w₃.service.registerResult with f | u
  · rw [hres] at hcall
    rw [run_bind_error hcall]
    exact ha₄
  rw [hres] at hcall
  rw [run_bind_ok hcall]
  have hreg₄ : w₄.service.registered = .ok true := by
    simp [hw₄, ScriptedService.afterRegister, hres, Except.isOk, Except.toBool]
  -- the registered marker, after a registration that succeeded
  rcases hm : r.store.markRegistered.run w₄ with ⟨e | u, w₅⟩
  · rw [run_bind_error hm]
    exact ha₄.of_storeStep_registered (Within.of_run (writeMarker_within hs .registered) hm) hreg₄
  have ha₅ := ha₄.of_storeStep_registered (Within.of_run (writeMarker_within hs .registered) hm) hreg₄
  rw [run_bind_ok hm]
  obtain ⟨w₆, hinfo, hlo₆⟩ := run_info
    ("Successfully registered " ++ r.hostName ++ " (machine id " ++ identity.text ++ ")") w₅
  rw [run_bind_ok hinfo, run_pure]
  exact ha₅.of_logOnly hlo₆

/-- The decision keeps the agreement: a host the service knows, or one it does not know when
registering is not asked, only gets lines in the journal. -/
theorem decideLegacy_agrees (hs : r.store.Plain) (hr : r.remote = .scripted)
    (identity : MachineIdentity) (b : Bool) :
    Triple (fun w => r.store.Agrees w ∧ w.service.registered = .ok b)
      (r.decideLegacy req identity b) (fun _ => r.store.Agrees) r.store.Agrees := by
  cases b with
  | true =>
    rintro w ⟨ha, -⟩
    obtain ⟨w', hrun, hlog⟩ := r.decideLegacy_known req identity (w := w)
    rw [hrun]
    exact ha.of_logOnly hlog
  | false =>
    cases hask : req.register with
    | false =>
      rintro w ⟨ha, -⟩
      obtain ⟨w', hrun, hlog⟩ := r.decideLegacy_unasked req identity hask (w := w)
      rw [hrun]
      exact ha.of_logOnly hlog
    | true => exact r.registerAsked_agrees req hs hr identity hask

/-- **The legacy registration keeps the agreement**: its preparation lets no marker appear, and
the markers are then brought in line with the service's answer before the decision. -/
theorem ensureLegacy_agrees (hs : r.store.Plain) (hr : r.remote = .scripted) :
    Keeps r.store.Agrees (r.ensureLegacy req) := by
  rw [ensureLegacy_eq]
  refine Triple.bind ((r.prepareLegacy_within req hs).keeps fun _ _ h ha => ha.of_storeStep h id)
    fun identity => ?_
  refine Triple.bind (r.checkRegistration_agrees hr) fun b => ?_
  refine Triple.bind ((r.reconcile_agrees hs b).mono (fun _ h => h) (fun _ _ h => h)
    fun _ h => h.1) fun _ => ?_
  exact r.decideLegacy_agrees req hs hr identity b

theorem ensureRegistered_agrees (hs : r.store.Plain) (hr : r.remote = .scripted) :
    Keeps r.store.Agrees (r.ensureRegistered req) := by
  unfold Registrar.ensureRegistered
  split
  · exact r.ensureLegacy_agrees req hs hr
  · exact Keeps.bind ((logOnly_log _ _).keeps fun _ _ h ha => ha.of_logOnly h) fun _ => Keeps.pure _

end Registrar

/-! ## Any sequence of runs -/

section Runs

variable {s : StateStore}

/-- **Every run keeps the agreement**, whatever its settings and however it ends, when its
collector leaves the state directory alone. -/
theorem StoreOp.run_agrees (hs : s.Plain) (i : Invocation) (hcol : i.collector.LeavesStore s) :
    Keeps s.Agrees ((StoreOp.run i).act s) := by
  refine StoreOp.run_keeps s i (fun _ _ h ha => ha.of_quiet h) (fun r hr hst hc => ?_) hs hcol
  subst hst
  exact ⟨r.unregister_agrees hs hr hc _, fun req => r.ensureRegistered_agrees req hs hr⟩

/-- **The registered marker agrees with the service, and nothing registers twice.** Take a state
directory named without `..`, whose path passes no link and whose markers are no links, and a
scripted service that has seen no call, shared by any sequence of runs of any settings whose
collectors leave the directory alone. If before the first run a registered marker that is a
regular file stands for a host the service holds registered, then after the runs the same is
so, and no registration call has followed a successful one without a confirmed unregistration
between them. -/
theorem registered_marker_agrees (hs : s.Plain) (invs : List Invocation)
    (hcol : ∀ i ∈ invs, i.collector.LeavesStore s) (w : World)
    (hsound : s.Sound w.files w.cwd) (hfresh : w.service.history.toList = [])
    (hmarker : w.files.isFile w.cwd (s.markerPath .registered) = true →
      w.service.registered = .ok true) :
    let w' := runOps s (invs.map StoreOp.run) w
    (w'.files.isFile w'.cwd (s.markerPath .registered) = true → w'.service.registered = .ok true) ∧
      RegistersOnce w'.service.history.toList := by
  intro w'
  have hinit : s.Agrees w :=
    ⟨hsound, fun hp => hmarker ((isFile_markerPath_iff (m := .registered) hs hsound rfl).2 hp),
      .of_history_nil hfresh⟩
  have hruns : ∀ op ∈ invs.map StoreOp.run, Keeps s.Agrees (op.act s) := by
    intro op hop
    obtain ⟨i, hi, rfl⟩ := List.mem_map.1 hop
    exact StoreOp.run_agrees hs i (hcol i hi)
  have ha : s.Agrees w' := runOps_keeps s _ hruns w hinit
  exact ⟨fun hfile => ha.marker ((isFile_markerPath_iff (m := .registered) hs ha.sound rfl).1 hfile), ha.settled.once⟩

/-- The main statement from a fresh host, through a legacy registration and an
unregistration. -/
theorem registered_marker_agrees_register_unregister :
    let s : StateStore := ⟨"state"⟩
    let invs : List Invocation :=
      [{ config := { register := true }, collector := .canned { archive := "a" }
         sleeper := .recording, scheduler := .cron "cron" },
       { config := { unregister := true }, collector := .canned { archive := "a" }
         sleeper := .recording, scheduler := .cron "cron" }]
    let w' := runOps s (invs.map StoreOp.run) {}
    s.Plain ∧ s.Sound ({} : World).files ({} : World).cwd ∧
    ({} : World).service.history.toList = [] ∧
    ¬ ({} : World).files.isFile [] (s.markerPath .registered) = true ∧
    (w'.files.isFile w'.cwd (s.markerPath .registered) = true → w'.service.registered = .ok true) ∧
      RegistersOnce w'.service.history.toList := by
  intro s invs w'
  have hs : s.Plain := by
    unfold StateStore.Plain
    decide
  have hsound : s.Sound ({} : World).files ({} : World).cwd :=
    sound_of_unbound fun l hl => by simp [FileTree.lookup_of_ne_nil _ hl.ne_nil]
  have hnone : ¬ ({} : World).files.isFile [] (s.markerPath .registered) = true := by decide +kernel
  have hcol : ∀ i ∈ invs, i.collector.LeavesStore s := by
    intro i hi
    simp only [invs, List.mem_cons, List.mem_nil_iff, or_false] at hi
    rcases hi with rfl | rfl <;> exact Collector.canned_leavesStore _ s
  exact ⟨hs, hsound, rfl, hnone,
    registered_marker_agrees hs invs hcol {} hsound rfl fun h => absurd h hnone⟩

/-- **Without the name condition the marker can stand for nothing.** Through `s/n/..` with `n`
missing the registered marker names nothing, so the agreement holds before the first run. A run
of the modern generation writes its upload record, which creates `n`; the path of the registered
marker then reaches the file `s/.registered` that was there all along, while the service has
never registered the host. -/
theorem registered_marker_through_missing_dir :
    let s : StateStore := ⟨"s/n/.."⟩
    let w : World := { files := { entries := [(["s"], .dir 0o755),
      (["s", ".registered"], .file "x".toUTF8 0o644)] } }
    let i : Invocation :=
      { config := { legacyUpload := false, baseUrl := "http://x" }
        collector := .canned { archive := "archive.tar.gz" }
        sleeper := .real
        scheduler := .cron "cron.daily/hostwatch" }
    let w' := runOps s [.run i] w
    w.files.isFile w.cwd (s.markerPath .registered) = false ∧
    w'.files.isFile w'.cwd (s.markerPath .registered) = true ∧
    w'.service.registered = .ok false := by
  dsimp only
  decide +kernel

end Runs

end HostAgent
