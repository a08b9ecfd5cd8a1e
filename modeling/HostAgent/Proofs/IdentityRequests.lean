import HostAgent.Proofs.RecordPlace
import HostAgent.Proofs.HttpUpload
import HostAgent.Proofs.RunSteps
import HostAgent.Proofs.LegacyRegistration
import HostAgent.Proofs.MarkerExclusion

/-!
# `Proofs.IdentityRequests` — one identifier for every request of a run

A legacy client names the machine identifier in the paths of the status check and the upload
and in the body of the registration, and resolves it afresh for each request. `Faithful h s id k`
says that from the server's `k`-th request on the record still reads as `id` from a place that
holds no link, the first request is the status check for `id`, and every request is one sent for
`id` (`LegacyRequest`). Every request kind keeps it (`send_faithful`), the status check starts it
(`checkRegistration_first`), and the steps between requests keep it because they are steady.

`Registrar.ensureLegacy_settled` takes the registration step from a ready world to one where the
run keeps to the identifier the step resolved, and `Orchestrator.run_settled` carries that through
the rules, the collection and the upload. `machine_identity_settles` puts the store's side
(resolutions in a row) and the run's side together.
-/

namespace HostAgent

open HostAgent.Host HostAgent.Host.FileTree HostAgent.Store Agent

namespace Agent

/-- A run that ends in `P` whatever it answers leaves `P` in its world. -/
theorem Ends.world {α : Type} {P : World → Prop} {r : Except Fault α × World}
    (h : Ends (fun _ => P) P r) : P r.2 := by
  obtain ⟨_ | a, w⟩ := r <;> exact h

end Agent

namespace Remote.HttpService

open HostAgent.Http Store.StateStore

variable (h : HttpService)

/-! ## The requests of a legacy client -/

/-- The requests a legacy client sends on behalf of the machine identifier `id`: a status check
and an upload name it in their path, a registration in its body, and the request for the rules
names no identifier. -/
inductive LegacyRequest (id : String) : Request → Prop
  | check : LegacyRequest id (h.request "GET" ("/v1/systems/" ++ id) [] .empty)
  | register : LegacyRequest id (h.request "POST" "/v1/systems" [("content-type", "application/json")]
      (.text "application/json"
        (Json.Value.obj [("hostname", .str h.hostName), ("machine_id", .str id)]).compact))
  | upload (extra : List (String × String)) (body : Body) :
      LegacyRequest id (h.request "POST" ("/v1/uploads/" ++ id) extra body)
  | rules : LegacyRequest id (h.request "GET" "/v1/static/uploader.v2.json" [] .empty)

/-- The status check for `id`. -/
def checkRequest (id : String) : Request := h.request "GET" ("/v1/systems/" ++ id) [] .empty

variable {h} {s : StateStore} {id : MachineIdentity} {k : Nat} {w w' : World}

/-! ## Keeping to one identifier -/

/-- A run over `h` keeps to the identifier `id` from the server's `k`-th request on: the
record's place holds a node, not a link, that reads as `id`; nothing can be reached, or the
first request received since is the status check for `id`; and every request received since is
one sent for `id`. -/
def Faithful (h : HttpService) (s : StateStore) (id : MachineIdentity) (k : Nat) (w : World) :
    Prop :=
  s.HoldsAt id w ∧
    (w.network = .unreachable ∨
      (w.network.received.toList.drop k).head? = some (h.checkRequest id.text)) ∧
    ∀ q ∈ w.network.received.toList.drop k, h.LegacyRequest id.text q

theorem Faithful.of_steady (hs : s.Plain) (hst : s.Steady w w') (hf : h.Faithful s id k w) :
    h.Faithful s id k w' := by
  obtain ⟨hheld, hreq⟩ := hf
  refine ⟨hheld.of_steady hs hst, ?_⟩
  rw [hst.2]
  exact hreq

theorem Faithful.of_logOnly (hl : w.LogOnly w') (hf : h.Faithful s id k w) : h.Faithful s id k w' := by
  unfold World.LogOnly at hl
  rw [hl]
  exact hf

/-! ## Settled runs

Before the status check a run may have sent nothing; from it on it keeps to one identifier. The
identifier's own condition (`fresh`) travels along unchanged. -/

/-- Where a legacy run over `h` stands from the server's `k`-th request on: when `silent`,
possibly nothing received since; otherwise keeping to one identifier that `fresh` allows. -/
def Settled (h : HttpService) (s : StateStore) (fresh : MachineIdentity → Prop) (silent : Bool)
    (k : Nat) (w : World) : Prop :=
  (silent = true ∧ w.network.received.size = k) ∨ ∃ id, fresh id ∧ h.Faithful s id k w

section Settled

variable {fresh : MachineIdentity → Prop} {silent : Bool}

theorem Settled.allowSilent (hw : h.Settled s fresh silent k w) : h.Settled s fresh true k w := by
  rcases hw with ⟨-, hk⟩ | hid
  · exact .inl ⟨rfl, hk⟩
  · exact .inr hid

theorem Settled.of_steady (hs : s.Plain) (hst : s.Steady w w') (hw : h.Settled s fresh silent k w) :
    h.Settled s fresh silent k w' := by
  rcases hw with ⟨hsil, hk⟩ | ⟨id, hu, hf⟩
  · refine .inl ⟨hsil, ?_⟩
    rw [hst.2]
    exact hk
  · exact .inr ⟨id, hu, hf.of_steady hs hst⟩

theorem settled_of_steady (hs : s.Plain) {α : Type} {act : Agent α} (hact : Within s.Steady act) :
    Keeps (h.Settled s fresh silent k) act :=
  hact.keeps fun _ _ hst hw => hw.of_steady hs hst

theorem settled_of_logOnly {α : Type} {act : Agent α} (hact : Within World.LogOnly act) :
    Keeps (h.Settled s fresh silent k) act :=
  hact.keeps fun _ _ hl hw => by
    unfold World.LogOnly at hl
    rw [hl]
    exact hw

/-- A step that keeps to every identifier keeps a run that has sent its status check settled. -/
theorem settled_of_faithful {α : Type} {act : Agent α}
    (hact : ∀ id, Keeps (h.Faithful s id k) act) : Keeps (h.Settled s fresh false k) act := by
  rintro w (⟨hsil, -⟩ | ⟨id, hu, hf⟩)
  · cases hsil
  · exact (hact id).mono (fun _ h => h) (fun _ w' hf' => .inr ⟨id, hu, hf'⟩)
      (fun w' hf' => .inr ⟨id, hu, hf'⟩) w hf

theorem settled_of_ready (hsil : silent = true) (hw : s.Ready k w) : h.Settled s fresh silent k w :=
  .inl ⟨hsil, hw.2.2⟩

/-- A stretch of a run that keeps it settled ends it settled, silent or not. -/
theorem Settled.triple {α : Type} {P : World → Prop} {act : Agent α}
    (hP : ∀ w, P w → h.Settled s fresh silent k w) (hact : Keeps (h.Settled s fresh silent k) act) :
    Triple P act (fun _ => h.Settled s fresh true k) (h.Settled s fresh true k) :=
  hact.mono hP (fun _ _ hw => hw.allowSilent) fun _ hw => hw.allowSilent

/-- What a settled run has received since the `k`-th request: nothing, or the status check for
one identifier first and only requests for it, which the record holds. -/
theorem Settled.sent (hw : h.Settled s fresh silent k w) :
    w.network.received.toList.drop k = [] ∨ ∃ id, fresh id ∧
      (w.network.received.toList.drop k).head? = some (h.checkRequest id.text) ∧
      (∀ q ∈ w.network.received.toList.drop k, h.LegacyRequest id.text q) ∧ s.Holds id w := by
  rcases hw with ⟨-, hk⟩ | ⟨id, hfresh, hheld, hfirst, hall⟩
  · exact .inl (List.drop_eq_nil_of_le (by simp [hk]))
  · rcases hfirst with hu | hhead
    · left
      simp [hu, Network.received]
    · exact .inr ⟨id, hfresh, hhead, hall, hheld.holds⟩

end Settled

/-! ## The calls of the client -/

theorem keeps_of_steady (hs : s.Plain) {α : Type} {act : Agent α} (hact : Within s.Steady act) :
    Keeps (h.Faithful s id k) act :=
  hact.keeps fun _ _ hst hf => hf.of_steady hs hst

theorem keeps_of_logOnly {α : Type} {act : Agent α} (hact : Within World.LogOnly act) :
    Keeps (h.Faithful s id k) act :=
  hact.keeps fun _ _ hl hf => hf.of_logOnly hl

theorem lift_faithful {α : Type} (r : Except Fault α) : Keeps (h.Faithful s id k) (lift r) := by
  cases r with
  | error e => exact Keeps.throw e
  | ok a => exact Keeps.pure a

theorem Faithful.ends_spans {α : Type} {r : Except Fault α × World} (sp : List String)
    (hr : Ends (fun _ => h.Faithful s id k) (h.Faithful s id k) r) :
    Ends (fun _ => h.Faithful s id k) (h.Faithful s id k) (r.1, { r.2 with spans := sp }) := by
  obtain ⟨_ | a, w⟩ := r <;> exact hr

/-- A span keeps what its body keeps: what is kept does not look at the open spans. -/
theorem faithful_inSpan {α : Type} (label : String) {act : Agent α}
    (hact : Keeps (h.Faithful s id k) act) : Keeps (h.Faithful s id k) (inSpan label act) := by
  intro w hw
  rw [run_inSpan]
  have hend := hact { w with spans := w.spans ++ [label] } hw
  rcases hr : act.run { w with spans := w.spans ++ [label] } with ⟨_ | a, w'⟩ <;>
    rw [hr] at hend <;> exact hend

/-- Under a record that reads as `id`, the identifier is `id`, and resolving it writes only the
journal. -/
theorem machineId_held (hst : h.store = s) (hheld : s.Holds id w) :
    ∃ w', h.machineId.run w = (.ok id.text, w') ∧ w.LogOnly w' := by
  subst hst
  obtain ⟨w', hres, hlo⟩ := MachineIdentity.resolve_held hheld
  refine ⟨w', ?_, hlo⟩
  unfold machineId
  rw [run_bind_ok hres]
  rfl

theorem received_exchange (net : Network) (q : Request) :
    (net.exchange q).2 = .unreachable ∧ net = .unreachable ∨
      (net.exchange q).2.received = net.received.push q := by
  cases net with
  | unreachable => exact .inl ⟨rfl, rfl⟩
  | server replies fallback received =>
    cases replies <;> exact .inr rfl

/-- **Sending a request sent for `id` after the status check keeps to `id`.** -/
theorem send_faithful {method path : String} {extra : List (String × String)} {body : Body}
    (hq : h.LegacyRequest id.text (h.request method path extra body)) :
    Keeps (h.Faithful s id k) (h.send method path extra body) := by
  intro w hw
  obtain ⟨j, hrun⟩ := h.send_run method path extra body w
  obtain ⟨hrec, hfirst, hreq⟩ := hw
  -- the files stay, and the server's requests gain at most this one, after the check
  have hnext : h.Faithful s id k
      { w with network := (w.network.exchange (h.request method path extra body)).2, journal := j } := by
    refine ⟨hrec, ?_⟩
    rcases received_exchange w.network (h.request method path extra body) with ⟨he, hu⟩ | he
    · refine ⟨.inl he, fun q hq' => ?_⟩
      simp only [he, Network.received, Array.toList_empty, List.drop_nil, List.not_mem_nil] at hq'
    rcases hfirst with hu | hhead
    · simp [hu, Network.exchange] at he
    have hlt : k < w.network.received.toList.length := by
      by_contra hge
      rw [List.drop_eq_nil_of_le (by omega)] at hhead
      cases hhead
    simp only [he, Array.toList_push, List.drop_append_of_le_length hlt.le]
    refine ⟨.inr ?_, fun q hq' => ?_⟩
    · rw [List.head?_append, hhead]
      rfl
    · rcases List.mem_append.mp hq' with hq' | hq'
      · exact hreq q hq'
      · rw [List.mem_singleton.mp hq']
        exact hq
  rw [hrun]
  cases (w.network.exchange (h.request method path extra body)).1.result <;> exact hnext

/-- **The status check sent before any other request starts keeping to `id`.** -/
theorem send_check_first (hsize : w.network.received.size = k) (hrec : s.HoldsAt id w) :
    Ends (fun _ => h.Faithful s id k) (h.Faithful s id k)
      ((h.send "GET" ("/v1/systems/" ++ id.text) [] .empty).run w) := by
  obtain ⟨j, hrun⟩ := h.send_run "GET" ("/v1/systems/" ++ id.text) [] .empty w
  have hnext : h.Faithful s id k { w with network :=
      (w.network.exchange (h.checkRequest id.text)).2, journal := j } := by
    refine ⟨hrec, ?_⟩
    rcases received_exchange w.network (h.checkRequest id.text) with ⟨he, -⟩ | he
    · refine ⟨.inl he, fun q hq' => ?_⟩
      simp only [he, Network.received, Array.toList_empty, List.drop_nil, List.not_mem_nil] at hq'
    have hdrop : (w.network.exchange (h.checkRequest id.text)).2.received.toList.drop k =
        [h.checkRequest id.text] := by
      rw [he, Array.toList_push, List.drop_append_of_le_length (by simp [hsize]),
        List.drop_eq_nil_of_le (by simp [hsize]), List.nil_append]
    simp only [hdrop, List.head?_cons, List.mem_singleton, forall_eq]
    exact ⟨.inr trivial, .check⟩
  rw [hrun]
  cases (w.network.exchange (h.request "GET" ("/v1/systems/" ++ id.text) [] .empty)).1.result <;>
    exact hnext

/-- A call that resolves the identifier first and then goes on keeps to `id` when what follows
`id` does. -/
theorem identified_faithful (hst : h.store = s) {α : Type} (label : String)
    {rest : String → Agent α} (hrest : Keeps (h.Faithful s id k) (rest id.text)) :
    Keeps (h.Faithful s id k) (inSpan label (h.machineId >>= rest)) := by
  refine faithful_inSpan label fun w hw => ?_
  obtain ⟨w₁, hid, hlo⟩ := machineId_held hst hw.1.holds
  rw [run_bind_ok hid]
  exact hrest w₁ (hw.of_logOnly hlo)

theorem register_faithful (hst : h.store = s) : Keeps (h.Faithful s id k) h.register := by
  unfold register
  refine identified_faithful hst _ ?_
  refine Keeps.bind (send_faithful .register) fun r => ?_
  obtain ⟨status, body⟩ := r
  exact Keeps.bind (lift_faithful _) fun _ => Keeps.pure _

theorem fetchRules_faithful : Keeps (h.Faithful s id k) h.fetchRules := by
  unfold fetchRules
  refine faithful_inSpan _ ?_
  refine Keeps.bind (send_faithful .rules) fun r => ?_
  obtain ⟨status, body⟩ := r
  exact Keeps.bind (lift_faithful _) fun _ => Keeps.bind (lift_faithful _) fun _ => Keeps.pure _

theorem random64_steady : Within s.Steady random64 := by
  refine steady_of (fun w => ?_) hostOnly_random64
  rw [run_random64]
  -- stated first: unifying with the drawn world would compute the random source
  have hkept : s.RecordKept w { w with entropy := (splitMix w.entropy).1 } := RecordKept.of_eq rfl rfl
  exact hkept

theorem boundary_steady : Within s.Steady boundary := by
  unfold boundary
  refine Within.bind ?_ fun _ => Within.pure _
  rw [Std.Legacy.Range.forIn_eq_forIn_range']
  exact Within.forIn _ _ fun _ _ => Within.bind random64_steady fun _ => Within.pure _

theorem uploadArchive_faithful (hs : s.Plain) (hst : h.store = s) (hg : h.generation = .legacy)
    (a : Artifact) (ct : String) (hint : Option Time.Duration) :
    Keeps (h.Faithful s id k) (h.uploadArchive a ct hint) := by
  unfold uploadArchive
  refine faithful_inSpan _ ?_
  dsimp only
  split
  · exact Keeps.throw_bind _ _
  simp only [hg]
  intro w hw
  -- the path names the identifier the record reads as
  obtain ⟨w₁, hid, hlo⟩ := machineId_held hst hw.1.holds
  rw [run_bind_ok hid, run_bind_ok (run_pure _ _)]
  refine (Keeps.bind (keeps_of_steady hs boundary_steady) fun b => ?_) w₁ (hw.of_logOnly hlo)
  refine Keeps.bind (send_faithful (.upload _ _)) fun r => ?_
  obtain ⟨status, body⟩ := r
  exact lift_faithful _

/-- **The status check, sent before any other request, starts keeping to `id`.** -/
theorem checkRegistration_first (hst : h.store = s) (hg : h.generation = .legacy) :
    Triple (fun w => s.HoldsAt id w ∧ w.network.received.size = k) h.checkRegistration
      (fun _ => h.Faithful s id k) (h.Faithful s id k) := by
  intro w hw
  unfold checkRegistration
  rw [run_inSpan]
  refine Faithful.ends_spans _ ?_
  generalize hw₀ : ({ w with spans := _ } : World) = w₀
  have hrec₀ : s.HoldsAt id w₀ ∧ w₀.network.received.size = k := by
    rw [← hw₀]
    exact hw
  -- inside the span: the identifier, then the check, then reading its answer
  obtain ⟨w₁, hid, hlo⟩ := machineId_held hst hrec₀.1.holds
  rw [run_bind_ok hid]
  simp only [hg]
  have hsize₁ : w₁.network.received.size = k := by
    rw [(World.HostOnly.of_logOnly hlo).network_eq]
    exact hrec₀.2
  have hend : Ends (fun _ => h.Faithful s id k) (h.Faithful s id k)
      ((h.send "GET" ("/v1/systems/" ++ id.text) [] .empty).run w₁) :=
    send_check_first hsize₁ (hrec₀.1.of_logOnly hlo)
  rcases hr : (h.send "GET" ("/v1/systems/" ++ id.text) [] .empty).run w₁ with ⟨_ | x, w₂⟩
  · rw [run_bind_error hr]
    rw [hr] at hend
    exact hend
  · rw [run_bind_ok hr]
    rw [hr] at hend
    split
    · exact hend
    · exact (Keeps.bind (lift_faithful _) fun _ => lift_faithful _) w₂ hend

end Remote.HttpService

/-! ## The upload loop -/

namespace Uploader

open Remote Remote.HttpService Store.StateStore

variable (u : Uploader) {h : HttpService} {s : StateStore} {id : MachineIdentity} {k : Nat}

theorem sleep_steady (sleeper : Sleeper) (d : Time.Duration) :
    Within s.Steady (sleeper.sleep d) := by
  cases sleeper with
  | real => exact Within.modify fun w => ⟨RecordKept.of_eq rfl rfl, rfl⟩
  | recording => exact Within.modify fun w => ⟨RecordKept.of_eq rfl rfl, rfl⟩

/-- **Recording a delivered upload keeps the record's place** and sends nothing: it writes the
last-upload marker and the response's record only. -/
theorem finish_steady (hs : u.store.Plain) (attempts : Nat) (response : UploadResponse) :
    Within u.store.Steady (u.finish attempts response) :=
  u.finish_within_of (writeRecord_steady hs besideRecord_lastUploadResults) (writeMarker_steady hs _)
    log_steady attempts response

section Http

variable (hr : u.remote = .http h) (hst : h.store = s) (hus : u.store = s)
  (hg : h.generation = .legacy) (hs : s.Plain)
include hr hst hus hg hs

/-- One attempt and what follows it keeps to `id`, when the attempts after it do. -/
theorem attemptsFrom_faithful_of (a : Artifact) (hint : Option Time.Duration) (m left : Nat)
    (hnext : ∀ left', left = left' + 1 → Keeps (h.Faithful s id k) (u.attemptsFrom a hint (m + 1) left')) :
    Keeps (h.Faithful s id k) (u.attemptsFrom a hint m left) := by
  unfold attemptsFrom
  rw [hr]
  refine Keeps.bind (Keeps.capture (uploadArchive_faithful hs hst hg a _ hint)) fun result =>
    Keeps.bind (keeps_of_logOnly (u.judge_logOnly result)) fun verdict => ?_
  have hlog : ∀ msg, Keeps (h.Faithful s id k) (Agent.error msg) := fun _ =>
    keeps_of_logOnly (logOnly_log _ _)
  split
  · exact keeps_of_steady hs (hus ▸ u.finish_steady (hus ▸ hs) _ _)
  · exact Keeps.bind (hlog _) fun _ => Keeps.bind (hlog _) fun _ => Keeps.throw _
  · refine Keeps.bind (hlog _) fun _ => ?_
    split
    · exact Keeps.bind (hlog _) fun _ => Keeps.bind (hlog _) fun _ => Keeps.throw _
    · exact Keeps.bind (keeps_of_logOnly (logOnly_log _ _)) fun _ =>
        Keeps.bind (keeps_of_steady hs (sleep_steady _ _)) fun _ => hnext _ rfl

/-- **The upload loop keeps to `id`**: every attempt uploads to `id`'s path, and a success
records itself away from the record. -/
theorem upload_faithful (a : Artifact) (hint : Option Time.Duration) :
    Keeps (h.Faithful s id k) (u.upload a hint) := by
  have hloop : ∀ left m, Keeps (h.Faithful s id k) (u.attemptsFrom a hint m left) := by
    -- on the attempts left: the loop goes on with one fewer
    intro left
    induction left with
    | zero =>
      exact fun m => u.attemptsFrom_faithful_of hr hst hus hg hs a hint m 0 fun _ hl =>
        absurd hl (by omega)
    | succ left ih =>
      exact fun m => u.attemptsFrom_faithful_of hr hst hus hg hs a hint m (left + 1) fun left' hl => by
        rw [Nat.succ_inj.mp hl] at ih
        exact ih (m + 1)
  exact Keeps.bind (keeps_of_logOnly (logOnly_log _ _)) fun _ => hloop _ _

end Http

end Uploader


/-! ## The registration step -/

namespace Registrar

open Remote Remote.HttpService Store.StateStore

variable {r : Registrar} (req : RegistrationRequest) {h : HttpService} {s : StateStore}
  {id : MachineIdentity} {k : Nat}

theorem reconcile_steady (hs : r.store.Plain) (registered : Bool) :
    Within r.store.Steady (r.reconcile registered) :=
  r.reconcile_within_of log_steady (fun _ => writeMarker_steady hs _)
    fun _ => writeMarker_steady hs _

/-- **The local preparation leaves the identifier it returns at the record's place** and sends
nothing: under `forceReregister` the UUID drawn from the random source as it stood; otherwise
the identifier already there or a new one. -/
theorem prepareLegacy_holdsAt (hrs : r.store = s) (hs : s.Plain) (e : UInt64) :
    Triple (fun w => s.Ready k w ∧ w.entropy = e) (r.prepareLegacy req)
      (fun id w => s.HoldsAt id w ∧ w.network.received.size = k ∧
        (req.forceReregister = true → id.text = MachineIdentity.drawnUuid e))
      (fun w => w.network.received.size = k) := by
  subst hrs
  -- the resolution and its journal line; a link at the record's place matters only when it is read
  have hresolve : ∀ force : Bool, Triple
      (fun w => r.store.Sound w.files w.cwd ∧ (force = false → r.store.NoLinkAtRecord w) ∧
        w.network.received.size = k ∧ w.entropy = e)
      (do
        let identity ← MachineIdentity.resolve r.store force
        debug ("Machine-id: " ++ identity.text)
        pure identity)
      (fun id w => r.store.HoldsAt id w ∧ w.network.received.size = k ∧
        (force = true → id.text = MachineIdentity.drawnUuid e))
      (fun w => w.network.received.size = k) := by
    rintro force w ⟨hsound, hnolink, hk, he⟩
    have hnet : ((MachineIdentity.resolve r.store force).run w).2.network = w.network :=
      (MachineIdentity.resolve_hostOnly r.store force w).network_eq
    rcases hres : (MachineIdentity.resolve r.store force).run w with ⟨_ | id, w₁⟩
    · rw [run_bind_error hres]
      rw [hres] at hnet
      show w₁.network.received.size = k
      rw [hnet]
      exact hk
    · rw [run_bind_ok hres]
      rw [hres] at hnet
      obtain ⟨w₂, hlog, hlo⟩ := run_debug ("Machine-id: " ++ id.text) w₁
      rw [run_bind_ok hlog]
      refine ⟨(resolve_holdsAt hs hsound hnolink hres).of_logOnly hlo, ?_, fun hf => ?_⟩
      · rw [(World.HostOnly.of_logOnly hlo).network_eq, hnet]
        exact hk
      · subst hf
        rw [MachineIdentity.resolve_regenerate_drawn hres, he]
  -- what the steps before the resolution keep, whether it reads the record or regenerates it
  have hlog : ∀ (force : Bool) m, Triple
      (fun w => r.store.Sound w.files w.cwd ∧ (force = false → r.store.NoLinkAtRecord w) ∧
        w.network.received.size = k ∧ w.entropy = e) (debug m)
      (fun _ w => r.store.Sound w.files w.cwd ∧ (force = false → r.store.NoLinkAtRecord w) ∧
        w.network.received.size = k ∧ w.entropy = e)
      (fun w => w.network.received.size = k) := fun _ m =>
    ((logOnly_log _ m).keeps fun _ _ hl hw => by unfold World.LogOnly at hl; rw [hl]; exact hw).mono
      (fun _ h => h) (fun _ _ h => h) fun _ h => h.2.2.1
  unfold prepareLegacy
  refine Triple.bind ((hlog req.forceReregister _).mono
    (fun _ ⟨⟨hsound, hn, hk⟩, he⟩ => ⟨hsound, fun _ => hn, hk, he⟩) (fun _ _ h => h) fun _ h => h)
    fun _ => ?_
  dsimp only
  split
  · -- the markers go first: the tree stays sound, nothing is sent and no random word is drawn
    rename_i hforce
    rw [hforce]
    have hclear : Triple
        (fun w => r.store.Sound w.files w.cwd ∧ (true = false → r.store.NoLinkAtRecord w) ∧
          w.network.received.size = k ∧ w.entropy = e) r.store.clearRegistration
        (fun _ w => r.store.Sound w.files w.cwd ∧ (true = false → r.store.NoLinkAtRecord w) ∧
          w.network.received.size = k ∧ w.entropy = e)
        (fun w => w.network.received.size = k) := by
      refine (Triple.of_world fun w hw => ?_).mono (fun _ h => h) (fun _ _ h => h) fun _ h => h.2.2.1
      obtain ⟨hsound, -, hk, he⟩ := hw
      refine ⟨(clearRegistration_within w).sound hsound, nofun, ?_, ?_⟩
      · rw [(clearRegistration_steady hs w).2]
        exact hk
      · rw [clearRegistration_entropy, he]
    exact Triple.bind hclear fun _ => Triple.bind (hlog true _) fun _ => hresolve true
  · rename_i hforce
    rw [Bool.not_eq_true] at hforce
    rw [hforce]
    exact hresolve false

/-- The decision keeps to `id`: it sends at most the registration, and marks the host registered
away from the record. -/
theorem decideLegacy_faithful (hrem : r.remote = .http h) (hrs : r.store = s) (hst : h.store = s)
    (hs : s.Plain) (identity : MachineIdentity) (registered : Bool) :
    Keeps (h.Faithful s id k) (r.decideLegacy req identity registered) := by
  have hlog : ∀ l m, Keeps (h.Faithful s id k) (log l m) := fun _ _ =>
    keeps_of_logOnly (logOnly_log _ _)
  unfold decideLegacy
  rw [hrem, hrs]
  split
  · dsimp only
    split
    · exact Keeps.bind (hlog _ _) fun _ => Keeps.pure _
    · exact Keeps.pure _
  split
  · exact Keeps.bind (hlog _ _) fun _ => Keeps.pure _
  exact Keeps.bind (keeps_of_logOnly (resolveCredentials_logOnly _)) fun _ =>
    Keeps.bind (register_faithful hst) fun _ =>
    Keeps.bind (keeps_of_steady hs (writeMarker_steady hs _)) fun _ =>
    Keeps.bind (hlog _ _) fun _ => Keeps.pure _

/-- **The legacy registration step keeps to the identifier it resolves**: from a world ready for
it, the requests received since the `k`-th are none, or begin with the status check for the
identifier left at the record's place, and every one is sent for it; under `forceReregister` it
is the UUID drawn from the random source as it stood. -/
theorem ensureLegacy_settled (hrem : r.remote = .http h) (hrs : r.store = s) (hst : h.store = s)
    (hg : h.generation = .legacy) (hs : s.Plain) (e : UInt64) :
    Triple (fun w => s.Ready k w ∧ w.entropy = e) (r.ensureLegacy req)
      (fun _ => h.Settled s (fun id => req.forceReregister = true →
        id.text = MachineIdentity.drawnUuid e) false k)
      (h.Settled s (fun id => req.forceReregister = true →
        id.text = MachineIdentity.drawnUuid e) true k) := by
  rw [ensureLegacy_eq]
  refine Triple.bind ((prepareLegacy_holdsAt req hrs hs e).mono (fun _ h => h) (fun _ _ h => h)
    fun _ hk => .inl ⟨rfl, hk⟩) fun id => ?_
  rintro w ⟨hheld, hk, hdrawn⟩
  -- the status check starts keeping to `id`, and what follows keeps to it
  have hrest : Triple (fun w => s.HoldsAt id w ∧ w.network.received.size = k)
      (do
        let registered ← r.remote.checkRegistration
        r.reconcile registered
        r.decideLegacy req id registered)
      (fun _ => h.Faithful s id k) (h.Faithful s id k) := by
    rw [hrem]
    refine Triple.bind (checkRegistration_first hst hg) fun registered => Keeps.bind ?_ fun _ =>
      decideLegacy_faithful req hrem hrs hst hs id registered
    exact keeps_of_steady hs (hrs ▸ reconcile_steady (hrs ▸ hs) registered)
  exact hrest.mono (fun _ h => h) (fun _ w' hf => .inr ⟨id, hdrawn, hf⟩)
    (fun w' hf => .inr ⟨id, hdrawn, hf⟩) w ⟨hheld, hk⟩

end Registrar


/-! ## The run -/

namespace Collection.Collector

open Store.StateStore

/-- A collector that keeps the `machine-id` record's place and sends nothing: collecting and
finishing keep whatever node the place holds, and leave the network as it was. -/
def KeepsRecord (c : Collector) (s : StateStore) : Prop :=
  (∀ request, Within s.Steady (c.run request)) ∧
    ∀ rules removal, Within s.Steady (c.finalize rules removal)

/-- A canned collector only records its calls. -/
theorem canned_keepsRecord (k : CannedCollector) (s : StateStore) :
    (Collector.canned k).KeepsRecord s := by
  refine ⟨fun request => ?_, fun rules removal => ?_⟩
  · refine Within.bind (Within.modify fun w => ⟨RecordKept.of_eq rfl rfl, rfl⟩) fun _ => ?_
    split
    · exact Within.throw _
    · exact Within.pure _
  · refine Within.bind (Within.modify fun w => ⟨RecordKept.of_eq rfl rfl, rfl⟩) fun _ => ?_
    split
    · exact Within.throw _
    · exact Within.pure _

end Collection.Collector

namespace Orchestrator

open Config Collection Remote Remote.HttpService Store.StateStore

variable (o : Orchestrator) {h : HttpService} {s : StateStore} {k : Nat}
  {fresh : MachineIdentity → Prop}

/-- What a run assembled from settings and parts is made of, as far as the identifier goes. -/
theorem create_parts (c : AgentConfig) (remote : Service) (collector : Collector) (sleeper : Sleeper)
    (scheduler : Scheduler) (w : World) : ∃ o : Orchestrator,
    (create c remote collector sleeper scheduler).run w = (.ok o, w) ∧ o.config = c ∧
      o.remote = remote ∧ o.collector = collector ∧ o.registrar.remote = remote ∧
      o.registrar.store = ⟨c.stateDir⟩ ∧ o.registrar.generation = c.protocol ∧
      o.uploader.remote = remote ∧ o.uploader.store = ⟨c.stateDir⟩ := by
  obtain ⟨system, hcreate⟩ := create_run c remote collector sleeper scheduler w
  exact ⟨_, hcreate, rfl, rfl, rfl, rfl, rfl, rfl, rfl, rfl⟩

/-- Taking the rules keeps a run settled: offline they come from disk or not at all, and online
a fetch is one of the requests sent for the identifier. -/
theorem rules_settled (hrem : o.remote = .http h) :
    Keeps (h.Settled s fresh o.config.offline k) o.rules := by
  unfold rules
  split
  · exact Keeps.bind (settled_of_logOnly (logOnly_log _ _)) fun _ => Keeps.pure _
  · split
    · rename_i hon
      have hoff : o.config.offline = false := by
        simp only [Bool.and_eq_true, Bool.not_eq_eq_eq_not, Bool.not_true] at hon
        exact hon.2
      rw [hoff, hrem]
      exact Keeps.bind (settled_of_faithful fun _ => fetchRules_faithful) fun _ =>
        Keeps.bind (settled_of_logOnly (logOnly_log _ _)) fun _ => Keeps.pure _
    · exact settled_of_logOnly (Collection.loadRules_logOnly _)

/-- The collection and delivery keep a run settled: offline they send nothing, and online the
upload keeps to the identifier of the status check. -/
theorem collectAndDeliver_settled (hrem : o.remote = .http h) (hup : o.uploader.remote = .http h)
    (hus : o.uploader.store = s) (hst : h.store = s) (hg : h.generation = .legacy) (hs : s.Plain)
    (hcol : o.collector.KeepsRecord s) :
    Keeps (h.Settled s fresh o.config.offline k) o.collectAndDeliver := by
  unfold collectAndDeliver
  dsimp only
  refine Keeps.bind (rules_settled o hrem) fun rules =>
    Keeps.bind (settled_of_logOnly (Collection.loadRemovalConfig_logOnly _)) fun removal => ?_
  split
  on_goal 1 => refine Keeps.bind (settled_of_logOnly (logOnly_log _ _)) fun _ => ?_
  -- the collection, its finish, and the upload online
  all_goals
    refine Keeps.bind (settled_of_logOnly (logOnly_log _ _)) fun _ =>
      Keeps.bind (settled_of_steady hs (hcol.1 _)) fun artifact =>
      Keeps.bind (settled_of_steady hs (hcol.2 _ _)) fun archive => ?_
    split
    · exact Keeps.bind (settled_of_logOnly (logOnly_log _ _)) fun _ => Keeps.pure _
    · rename_i hon
      rw [Bool.not_eq_true] at hon
      rw [hon]
      exact Keeps.bind (settled_of_faithful fun _ =>
        Uploader.upload_faithful o.uploader hup hst hus hg hs _ _) fun _ => Keeps.pure _

/-- **A legacy run over `h` keeps to one identifier.** -/
theorem run_settled (hun : o.config.unregister = false) (hrem : o.remote = .http h)
    (hreg : o.registrar.remote = .http h) (hrs : o.registrar.store = s)
    (hgen : o.registrar.generation = .legacy) (hup : o.uploader.remote = .http h)
    (hus : o.uploader.store = s) (hst : h.store = s) (hg : h.generation = .legacy) (hs : s.Plain)
    (hcol : o.collector.KeepsRecord s) (e : UInt64) :
    Triple (fun w => s.Ready k w ∧ w.entropy = e) o.run
      (fun _ => h.Settled s (fun id => o.config.reregister = true →
        id.text = MachineIdentity.drawnUuid e) true k)
      (h.Settled s (fun id => o.config.reregister = true →
        id.text = MachineIdentity.drawnUuid e) true k) := by
  have hready : ∀ w, s.Ready k w ∧ w.entropy = e → h.Settled s (fun id => o.config.reregister = true →
      id.text = MachineIdentity.drawnUuid e) true k w :=
    fun _ hw => .inl ⟨rfl, hw.1.2.2⟩
  have hcollect : Keeps (h.Settled s (fun id => o.config.reregister = true →
      id.text = MachineIdentity.drawnUuid e) o.config.offline k) o.collectAndDeliver :=
    o.collectAndDeliver_settled hrem hup hus hst hg hs hcol
  rcases hv : o.config.validate with f | ⟨⟩
  · rw [o.run_eq_throw hv]
    exact Triple.throw hready
  rw [o.run_eq_runChecked hv]
  unfold runChecked
  dsimp only
  have hlog : ∀ m, Triple (fun w => s.Ready k w ∧ w.entropy = e) (debug m)
      (fun _ w => s.Ready k w ∧ w.entropy = e) (h.Settled s (fun id => o.config.reregister = true →
        id.text = MachineIdentity.drawnUuid e) true k) := fun m =>
    ((logOnly_log _ m).keeps fun _ _ hl hw => by unfold World.LogOnly at hl; rw [hl]; exact hw).mono
      (fun _ h => h) (fun _ _ h => h) hready
  refine Triple.bind (hlog _) fun _ => ?_
  simp only [hun, Bool.false_eq_true, ↓reduceIte]
  split
  · exact Triple.throw_bind _ _ hready
  split
  · -- online: the registration step, which ends the run unless it may proceed
    rename_i hon
    have hoff : o.config.offline = false := by simpa using hon
    unfold Registrar.ensureRegistered
    rw [hgen]
    refine Triple.bind ((Registrar.ensureLegacy_settled _ hreg hrs hst hg hs e).mono (fun _ h => h)
      (fun _ w hw => (by rw [hoff]; exact hw : h.Settled s (fun id => o.config.reregister = true →
        id.text = MachineIdentity.drawnUuid e) o.config.offline k w))
      fun _ h => h) fun decision => ?_
    split
    · exact Triple.pure fun _ hw => hw.allowSilent
    · exact Settled.triple (fun _ h => h) hcollect
  · -- offline: nothing is sent
    rename_i hon
    exact Settled.triple (fun w hw => settled_of_ready (by simpa using hon) hw.1) hcollect

end Orchestrator


/-! ## The identifier of a run -/

open Config Collection Remote Remote.HttpService Store.StateStore Store.MachineIdentity

/-- **The machine identifier settles on one value.** Take a state directory named without `..`,
with no link on its path or at a registration marker. Resolutions in a row that do not
regenerate answer the record's identifier when it holds one, every one alike; fail alike when the
record cannot be read; and, when it holds none, answer the UUID that the first of them stores,
once that one succeeds. A regeneration answers the UUID drawn from the random source as it
stood, and the resolutions after it answer that one. In one legacy run that does not unregister,
with no link at the record's place and a collector that keeps the record's place and sends
nothing, the server receives nothing, or first the status check for one identifier and then
only requests sent for it; the record holds that identifier at the end, and under
re-registration it is the UUID drawn as the run began. -/
theorem machine_identity_settles (c : AgentConfig) (h : HttpService) (collector : Collector)
    (sleeper : Sleeper) (scheduler : Scheduler) (w : World) (k : Nat)
    (hs : (⟨c.stateDir⟩ : StateStore).Plain)
    (hsound : (⟨c.stateDir⟩ : StateStore).Sound w.files w.cwd) :
    let s : StateStore := ⟨c.stateDir⟩
    ((∀ id, s.Holds id w → ∃ w', (resolveRepeatedly s k).run w =
        (.ok (List.replicate k (.ok id)), w') ∧ w.LogOnly w') ∧
      (∀ e, w.files.readFile w.cwd (s.recordPath .machineId) = .error e → e ≠ .notFound →
        (resolveRepeatedly s k).run w = (.ok (List.replicate k (.error (.io e))), w)) ∧
      (s.NoIdentity w → ∃ rs w', (resolveRepeatedly s (k + 1)).run w = (.ok rs, w') ∧
        ∀ id, rs.head? = some (.ok id) → rs = List.replicate (k + 1) (.ok id) ∧ s.Holds id w' ∧
          ∃ bytes, id.text = uuidOfBytes bytes) ∧
      (∀ id w', (resolve s true).run w = (.ok id, w') → id.text = drawnUuid w.entropy ∧
        ∃ w'', (resolveRepeatedly s k).run w' = (.ok (List.replicate k (.ok id)), w'') ∧
          s.Holds id w'')) ∧
    (c.protocol = .legacy → c.unregister = false → h.generation = .legacy → h.store = s →
      s.NoLinkAtRecord w → collector.KeepsRecord s →
      let w' := ((Orchestrator.create c (.http h) collector sleeper scheduler >>=
        Orchestrator.run).run w).2
      let sent := w'.network.received.toList.drop w.network.received.size
      sent = [] ∨ ∃ id : MachineIdentity, sent.head? = some (h.checkRequest id.text) ∧
        (∀ q ∈ sent, h.LegacyRequest id.text q) ∧ s.Holds id w' ∧
        (c.reregister = true → id.text = drawnUuid w.entropy)) := by
  intro s
  refine ⟨⟨fun id hh => resolveRepeatedly_held hh k,
    fun e he hne => resolveRepeatedly_unreadable hne he k,
    fun hnone => resolveRepeatedly_fresh hs hsound hnone k,
    fun id w' hreg => ⟨resolve_regenerate_drawn hreg,
      (resolveRepeatedly_after_regenerate hs hsound hreg k).2⟩⟩, ?_⟩
  intro hproto hun hg hst hnolink hcol
  -- the run the settings assemble, from a world where nothing is received yet
  obtain ⟨o, hcreate, rfl, hrem, rfl, hreg, hrs, hgen, hup, hus⟩ :=
    Orchestrator.create_parts c (.http h) collector sleeper scheduler w
  have hend := o.run_settled hun hrem hreg hrs (hgen.trans hproto) hup hus hst hg hs hcol w.entropy w
    ⟨⟨hsound, hnolink, rfl⟩, rfl⟩
  dsimp only
  rw [run_bind_ok hcreate]
  rcases (Ends.world hend).sent with hnil | ⟨id, hfresh, hhead, hall, hheld⟩
  · exact .inl hnil
  · exact .inr ⟨id, hhead, hall, hheld, hfresh⟩

/-- The default settings over an empty host meet every assumption. -/
theorem machine_identity_settles_default :
    let c : AgentConfig := {}
    let s : StateStore := ⟨c.stateDir⟩
    let h : HttpService := { baseUrl := "x", generation := .legacy, credentials := none
                             store := s, hostName := "host", timeout := default }
    let collector : Collector := .canned { archive := "a" }
    let w : World := {}
    s.Plain ∧ s.Sound w.files w.cwd ∧ c.protocol = .legacy ∧ c.unregister = false ∧
      h.generation = .legacy ∧ h.store = s ∧ s.NoLinkAtRecord w ∧ collector.KeepsRecord s ∧
      let w' := ((Orchestrator.create c (.http h) collector .recording (.cron "cron") >>=
        Orchestrator.run).run w).2
      let sent := w'.network.received.toList.drop w.network.received.size
      (sent = [] ∨ ∃ id : MachineIdentity, sent.head? = some (h.checkRequest id.text) ∧
        (∀ q ∈ sent, h.LegacyRequest id.text q) ∧ s.Holds id w' ∧
        (c.reregister = true → id.text = drawnUuid w.entropy)) := by
  intro c s h collector w
  have hs : s.Plain := by
    unfold StateStore.Plain
    decide
  have hsound : s.Sound w.files w.cwd :=
    sound_of_unbound fun l hl => by simp [w, FileTree.lookup_of_ne_nil _ hl.ne_nil]
  have hnolink : s.NoLinkAtRecord w := fun target => by
    simp [w, FileTree.lookup_of_ne_nil _ (fileLoc_ne_nil s _ _)]
  have hcol := Collection.Collector.canned_keepsRecord { archive := "a" } s
  exact ⟨hs, hsound, rfl, rfl, rfl, rfl, hnolink, hcol,
    (machine_identity_settles c h collector .recording (.cron "cron") w 0 hs hsound).2 rfl rfl rfl rfl
      hnolink hcol⟩

/-- **Without a link-free path a record without an identifier never gets one.** With the state
directory a link to a missing directory, the record reads as absent, and making the directory
for the new record meets the link: every resolution fails alike. -/
theorem resolve_through_dangling_link :
    let s : StateStore := ⟨"state"⟩
    let w : World := { files := { entries := [(["state"], .link "missing")] } }
    s.NoIdentity w ∧ ((resolveRepeatedly s 2).run w).1 =
      .ok [.error (.io .alreadyExists), .error (.io .alreadyExists)] := by
  dsimp only
  exact ⟨.inl (by decide +kernel), by decide +kernel⟩

end HostAgent

