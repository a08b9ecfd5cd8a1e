import HostAgent.Proofs.HttpAnswers
import HostAgent.Proofs.UploadRetry

/-!
# `Proofs.HttpUpload` — the upload loop against a server

`Proofs.UploadRetry` follows the upload loop against the scripted service. Here the loop talks to
a server through `Remote.HttpService`: the server's replies are any queue followed by a fallback,
and each of them is an answer, a timeout or a failed connection. The main statement,
`http_upload_ends_by_verdict`, says for every configuration, client of the same generation,
sleeper, artifact, hint, world and server:

* each attempt either sends one request and gets the server's next reply, read by
  `classifyUploadStatus` (`Reply.uploadResult`), or fails before sending (`HttpService.Unsent`):
  on a content type that is not a media type, or, in the legacy generation, while resolving the
  machine identifier; a fault before sending is fatal (`HttpService.uploadVerdict_unsent`);
* by the status of an answer (`statusVerdict`): `2xx` succeeds; `413`, `412` in the legacy
  generation and `415` in the modern one are fatal; every other status, a timeout and a failed
  connection are retried;
* the loop makes `k ≤ max 1 retries` attempts, every one but the last retryable, and stops
  before its last allowed attempt only on a result that is not; the server receives `k` requests,
  or `k - 1` when the last attempt failed before sending; the verdict on the last result ends the
  upload;
* a modern artifact whose content type is not a media type ends at the first attempt, before any
  request.

One step is one attempt (`HttpService.uploadArchive_attempt`); the induction is on the attempts
left (`Uploader.attemptsFrom_http`).
-/

namespace HostAgent

open HostAgent.Config HostAgent.Http HostAgent.Remote HostAgent.Store HostAgent.Time Agent

namespace Http

/-- The result of an upload attempt that got reply `r`: an answer is read by its status, no
answer is a timeout or a transport fault. -/
def Reply.uploadResult (g : Generation) : Reply → Except Fault UploadResponse
  | .answer r => classifyUploadStatus g r.status r.body
  | .timeout => .error .timeout
  | .failure m => .error (.transport m)

/-- A server replies with the head of its queue, or with its fallback, and keeps the request. -/
theorem Network.exchange_server (R : List Reply) (F : Reply) (Rc : Array Request) (r : Request) :
    (Network.server R F Rc).exchange r = (R.headD F, .server R.tail F (Rc.push r)) := by
  cases R <;> rfl

theorem getD_tail (R : List Reply) (F : Reply) (i : Nat) : R.tail.getD i F = R.getD (i + 1) F := by
  cases R <;> simp

end Http

/-! ## The verdict on a reply -/

/-- The verdict on an answer with status `s` and body `b`. -/
def statusVerdict (g : Generation) (s : Nat) (b : String) : Verdict :=
  if s = 413 then .fatal .payloadTooLarge
  else if g = .legacy ∧ s = 412 then .fatal .unregistered
  else if g = .modern ∧ s = 415 then .fatal (.invalidContentType b)
  else if 200 ≤ s ∧ s < 300 then .success ⟨s, b⟩
  else .retryable (some s)

theorem uploadVerdict_answer (g : Generation) (s : Nat) (b : String) :
    uploadVerdict ((Reply.answer ⟨s, b⟩).uploadResult g) = statusVerdict g s b := by
  unfold Reply.uploadResult classifyUploadStatus statusVerdict
  -- the same chain of tests on both sides, then the status class of an answer read as such
  by_cases h413 : s = 413
  · simp [h413, uploadVerdict]
  by_cases h412 : g = .legacy ∧ s = 412
  · obtain ⟨rfl, rfl⟩ := h412
    simp [uploadVerdict]
  by_cases h415 : g = .modern ∧ s = 415
  · obtain ⟨rfl, rfl⟩ := h415
    simp [uploadVerdict]
  have hleg : (g == .legacy && s == 412) = false := by
    cases g <;> simp_all
  have hmod : (g == .modern && s == 415) = false := by
    cases g <;> simp_all
  simp only [h413, h412, h415, hleg, hmod, beq_iff_eq, Bool.false_eq_true, if_false]
  by_cases h2xx : 200 ≤ s ∧ s < 300
  · simp [h2xx, uploadVerdict, UploadResponse.isSuccess]
  · simp [h2xx, uploadVerdict, UploadResponse.isSuccess]

/-- **The answers that end the loop**: a success, `413`, and the generation's own refusal. -/
theorem statusVerdict_isRetryable (g : Generation) (s : Nat) (b : String) :
    (statusVerdict g s b).isRetryable = false ↔
      (200 ≤ s ∧ s < 300) ∨ s = 413 ∨ (g = .legacy ∧ s = 412) ∨ (g = .modern ∧ s = 415) := by
  unfold statusVerdict
  split
  · simp_all [Verdict.isRetryable]
  split
  · simp_all [Verdict.isRetryable]
  split
  · simp_all [Verdict.isRetryable]
  split
  · simp_all [Verdict.isRetryable]
  · simp only [Verdict.isRetryable, Bool.true_eq_false, false_iff]
    rintro (h2xx | h413 | h412 | h415) <;> simp_all

theorem uploadVerdict_noAnswer (g : Generation) (m : String) :
    (uploadVerdict (Reply.timeout.uploadResult g)).isRetryable ∧
      (uploadVerdict ((Reply.failure m).uploadResult g)).isRetryable :=
  ⟨rfl, rfl⟩

/-! ## One attempt -/

/-- A content type refused before anything is sent: not empty, and not a media type. -/
def badContentType (ct : String) : Bool := !ct.isEmpty && !isMediaType ct

namespace Remote.HttpService

variable (h : HttpService)

/-- The faults an upload attempt ends with before it sends: the refusal of a content type that is
not a media type, or else, in the legacy generation, a fault of the host while resolving the
machine identifier. -/
def Unsent (ct : String) (e : Fault) : Prop :=
  if badContentType ct then e = .invalidContentType ("invalid media type: " ++ ct)
  else h.generation = .legacy ∧ e.Local

variable {h}

/-- A fault before sending is fatal. -/
theorem uploadVerdict_unsent {ct : String} {e : Fault} (he : h.Unsent ct e) :
    uploadVerdict (.error e) = .fatal e := by
  unfold Unsent at he
  split at he
  · rw [he]
    rfl
  · obtain ⟨-, hl⟩ := he
    cases e <;> first | rfl | exact (hl : False).elim

theorem boundary_hostOnly : Within World.HostOnly boundary := by
  unfold boundary
  refine Within.bind ?_ fun _ => Within.pure _
  rw [Std.Legacy.Range.forIn_eq_forIn_range']
  exact Within.forIn _ _ fun _ _ => Within.bind hostOnly_random64 fun _ => Within.pure _

theorem boundary_ok (w : World) : ∃ b, (boundary.run w).1 = .ok b := by
  have hfails : FailsWith (fun _ => False) boundary := by
    unfold boundary
    refine FailsWith.bind ?_ fun _ => FailsWith.pure _
    rw [Std.Legacy.Range.forIn_eq_forIn_range']
    exact FailsWith.forIn _ _ fun _ _ => FailsWith.bind FailsWith.random64 fun _ => FailsWith.pure _
  rcases hb : (boundary.run w).1 with e | b
  · exact (hfails w e hb).elim
  · exact ⟨b, rfl⟩

variable {R : List Reply} {F : Reply} {Rc : Array Request}

variable (h) in
/-- The request of an attempt, once its path is known: a boundary is drawn, one request is sent,
and the reply is read by its status. -/
theorem boundary_send_run (path : String) (extra : String → List (String × String))
    (body : String → Body) (w : World) (hnet : w.network = .server R F Rc) :
    ((do
        let b ← boundary
        let x ← h.send "POST" path (extra b) (body b)
        lift (classifyUploadStatus h.generation x.1 x.2)).run w).1 =
      (R.headD F).uploadResult h.generation ∧
    ∃ q, ((do
        let b ← boundary
        let x ← h.send "POST" path (extra b) (body b)
        lift (classifyUploadStatus h.generation x.1 x.2)).run w).2.network =
      .server R.tail F (Rc.push q) := by
  obtain ⟨b, hb⟩ := boundary_ok w
  have hnet₁ : (boundary.run w).2.network = .server R F Rc :=
    (boundary_hostOnly w).network_eq.trans hnet
  rw [run_bind_ok (show boundary.run w = (.ok b, (boundary.run w).2) by rw [← hb])]
  obtain ⟨j, hs⟩ := h.send_run "POST" path (extra b) (body b) (boundary.run w).2
  rw [hnet₁, Network.exchange_server] at hs
  -- the reply decides: an answer is classified, no answer is the send's own fault
  cases hr : R.headD F with
  | answer resp =>
    rw [hr] at hs
    rw [run_bind_ok hs]
    simp only [run_lift, Reply.uploadResult, true_and]
    exact ⟨_, rfl⟩
  | timeout =>
    rw [hr] at hs
    rw [run_bind_error hs]
    exact ⟨rfl, _, rfl⟩
  | failure m =>
    rw [hr] at hs
    rw [run_bind_error hs]
    exact ⟨rfl, _, rfl⟩

variable (h) in
/-- **One upload attempt against a server**: it either sends one request and gets the result of
the server's next reply, with the request kept by the server, or fails before sending with a
fault of `Unsent` and leaves the network as it was. -/
theorem uploadArchive_attempt (a : Artifact) (ct : String) (hint : Option Duration) (w : World)
    (hnet : w.network = .server R F Rc) :
    ∃ r w', (h.uploadArchive a ct hint).run w = (r, w') ∧
      ((badContentType ct = false ∧ r = (R.headD F).uploadResult h.generation ∧
          ∃ q, w'.network = .server R.tail F (Rc.push q)) ∨
       (∃ e, r = .error e ∧ h.Unsent ct e ∧ w'.network = w.network)) := by
  unfold uploadArchive
  rw [run_inSpan]
  refine ⟨_, _, rfl, ?_⟩
  generalize hw₀ : ({ w with spans := _ } : World) = w₀
  have hnet₀ : w₀.network = w.network := by rw [← hw₀]
  dsimp only
  split
  · -- a content type that is not a media type is refused before anything else
    rename_i hbad
    rw [run_bind_error (run_throw _ w₀)]
    refine .inr ⟨_, rfl, ?_, hnet₀⟩
    rw [Unsent, if_pos (show badContentType ct = true from hbad)]
  · rename_i hgood
    have hok : badContentType ct = false := Bool.eq_false_iff.mpr hgood
    have hsent : h.Unsent ct = fun e => h.generation = .legacy ∧ e.Local := by
      funext e
      rw [Unsent, if_neg (show ¬ badContentType ct = true from hgood)]
    split
    · rename_i hg
      rcases hid : (MachineIdentity.resolve h.store false).run w₀ with ⟨e | id, w₁⟩
      · have hm : h.machineId.run w₀ = (.error e, w₁) := by
          unfold machineId
          rw [run_bind_error hid]
        rw [run_bind_error hm]
        have hnet₁ := (MachineIdentity.resolve_hostOnly h.store false w₀).network_eq
        rw [hid] at hnet₁
        refine .inr ⟨e, rfl, ?_, hnet₁.trans hnet₀⟩
        rw [hsent]
        exact ⟨hg, MachineIdentity.resolve_failsLocal h.store false w₀ e (by rw [hid])⟩
      · have hm : h.machineId.run w₀ = (.ok id.text, w₁) := by
          unfold machineId
          rw [run_bind_ok hid]
          rfl
        rw [run_bind_ok hm]
        have hnet₁ := (MachineIdentity.resolve_hostOnly h.store false w₀).network_eq
        rw [hid] at hnet₁
        rw [run_bind_ok (run_pure _ w₁)]
        exact .inl ⟨hok, boundary_send_run h _ _ _ w₁ (hnet₁.trans (hnet₀.trans hnet))⟩
    · rw [run_bind_ok (run_pure _ w₀)]
      exact .inl ⟨hok, boundary_send_run h _ _ _ w₀ (hnet₀.trans hnet)⟩

end Remote.HttpService

/-! ## The loop -/

namespace Uploader

variable (u : Uploader) (a : Artifact) (hint : Option Duration) {r : Except Fault UploadResponse}
  {w w₁ : World}

/-- **The last attempt**: after a result that is not retried, or with no attempt left, the loop
ends by the verdict, and the world it ends in has the network the attempt left. -/
theorem attemptsFrom_stop (n left : Nat)
    (hrun : (u.remote.uploadArchive a (u.generation.uploadContentType a) hint).run w = (r, w₁))
    (hstop : (uploadVerdict r).isRetryable = false ∨ left = 0) :
    ∃ W : World, W.network = w₁.network ∧ (u.attemptsFrom a hint n left).run w =
      match uploadVerdict r with
      | .success resp => (u.finish n resp).run W
      | .fatal e => (.error (.uploadAborted e.message u.logFile), W)
      | .retryable _ => (.error (.uploadFailed u.retries u.logFile), W) := by
  obtain ⟨j, hj⟩ := u.judge_run r w₁
  -- both equations of the loop start with the attempt and its verdict
  have hfirst : ∀ (rest : Verdict → Agent UploadSummary),
      ((do
        let result ← capture (u.remote.uploadArchive a (u.generation.uploadContentType a) hint)
        rest (← u.judge result)) : Agent UploadSummary).run w =
        (rest (uploadVerdict r)).run { w₁ with journal := j } := by
    intro rest
    rw [run_bind_ok (run_capture hrun)]
    exact run_bind_ok hj _
  cases left with
  | zero =>
    rw [attemptsFrom.eq_1, hfirst]
    cases uploadVerdict r with
    | success resp => exact ⟨_, by rfl, rfl⟩
    | fatal e =>
      simp only [run_bind, run_log, error, run_throw]
      exact ⟨_, by rfl, rfl⟩
    | retryable st =>
      simp only [run_bind, run_log, error, run_throw]
      exact ⟨_, by rfl, rfl⟩
  | succ left =>
    rw [attemptsFrom.eq_2, hfirst]
    cases hv : uploadVerdict r with
    | success resp => exact ⟨_, by rfl, rfl⟩
    | fatal e =>
      simp only [run_bind, run_log, error, run_throw]
      exact ⟨_, by rfl, rfl⟩
    | retryable st =>
      rw [hv] at hstop
      simp [Verdict.isRetryable] at hstop

/-- **A retried attempt**: after a retryable result with attempts left, the loop reports it,
waits, and goes on from the next attempt, with the network the attempt left. -/
theorem attemptsFrom_retry (n left : Nat)
    (hrun : (u.remote.uploadArchive a (u.generation.uploadContentType a) hint).run w = (r, w₁))
    (hretry : (uploadVerdict r).isRetryable = true) :
    ∃ w₂ : World, w₂.network = w₁.network ∧
      (u.attemptsFrom a hint n (left + 1)).run w = (u.attemptsFrom a hint (n + 1) left).run w₂ := by
  obtain ⟨j, hj⟩ := u.judge_run r w₁
  rw [attemptsFrom.eq_2, run_bind_ok (run_capture hrun), run_bind_ok hj]
  cases hv : uploadVerdict r with
  | success resp =>
    rw [hv] at hretry
    cases hretry
  | fatal e =>
    rw [hv] at hretry
    cases hretry
  | retryable st =>
    -- a report, a notice of the wait, the wait, then the next attempt
    obtain ⟨w₃, h₃, hw₃⟩ := run_error _ { w₁ with journal := j }
    rw [run_bind_ok h₃]
    obtain ⟨w₄, h₄, hw₄⟩ := run_info _ w₃
    rw [run_bind_ok h₄]
    obtain ⟨w₅, h₅⟩ := u.sleeper.sleep_ok u.backoff w₄
    rw [run_bind_ok h₅]
    refine ⟨w₅, ?_, rfl⟩
    have hsleep := u.sleeper.sleep_hostOnly u.backoff w₄
    rw [h₅] at hsleep
    rw [hsleep.network_eq, (World.HostOnly.of_logOnly hw₄).network_eq,
      (World.HostOnly.of_logOnly hw₃).network_eq]


/-- **An attempt after which the loop stops**, against a server: the attempt sent one request or
none, and its verdict ends the loop. -/
theorem attemptsFrom_http_stop {h : HttpService} (hr : u.remote = .http h)
    (hg : h.generation = u.generation) (n left : Nat) {w w₁ : World} {r : Except Fault UploadResponse}
    {R : List Reply} {F : Reply} {Rc : Array Request}
    (hrun : (h.uploadArchive a (u.generation.uploadContentType a) hint).run w = (r, w₁))
    (hout : (badContentType (u.generation.uploadContentType a) = false ∧
        r = (R.headD F).uploadResult h.generation ∧ ∃ q, w₁.network = .server R.tail F (Rc.push q)) ∨
      (∃ e, r = .error e ∧ h.Unsent (u.generation.uploadContentType a) e ∧
        w₁.network = .server R F Rc))
    (hstop : (uploadVerdict r).isRetryable = false ∨ left = 0) :
    ∃ (W : World) (qs : Array Request),
      ((badContentType (u.generation.uploadContentType a) = false ∧
          r = (R.getD 0 F).uploadResult u.generation ∧ qs.size = 1) ∨
        (∃ e, r = .error e ∧ h.Unsent (u.generation.uploadContentType a) e ∧ qs.size = 0)) ∧
      W.network = .server (R.drop qs.size) F (Rc ++ qs) ∧
      (u.attemptsFrom a hint n left).run w = match uploadVerdict r with
        | .success resp => (u.finish n resp).run W
        | .fatal e => (.error (.uploadAborted e.message u.logFile), W)
        | .retryable _ => (.error (.uploadFailed u.retries u.logFile), W) := by
  have hrun' : (u.remote.uploadArchive a (u.generation.uploadContentType a) hint).run w = (r, w₁) := by
    rw [hr]
    exact hrun
  obtain ⟨W, hW, hend⟩ := u.attemptsFrom_stop a hint n left hrun' hstop
  rcases hout with ⟨hok, hr₀, q, hnet₁⟩ | ⟨e, hr₀, hun, hnet₁⟩
  · refine ⟨W, #[q], .inl ⟨hok, ?_, rfl⟩, ?_, hend⟩
    · rw [hr₀, hg, List.headD_eq_getD]
    · rw [hW, hnet₁, show (#[q] : Array Request).size = 1 from rfl, List.drop_one,
        Array.push_eq_append]
  · refine ⟨W, #[], .inr ⟨e, hr₀, hun, rfl⟩, ?_, hend⟩
    rw [hW, hnet₁]
    rfl

/-- **The loop against a server**, from attempt `n` with `left` more attempts allowed. With `x i`
the result that the `i`-th reply of the server gives, the loop makes `k` attempts, each but the last
retryable, and stops before its last allowed attempt only on a result that is not; the last
attempt got `x (k - 1)` or failed before sending; the server kept one request for each attempt
that sent one; the verdict on the last result ends the loop. -/
theorem attemptsFrom_http {h : HttpService} (hr : u.remote = .http h)
    (hg : h.generation = u.generation) (left n : Nat) (w : World)
    {R : List Reply} {F : Reply} {Rc : Array Request} (hnet : w.network = .server R F Rc) :
    let ct := u.generation.uploadContentType a
    let x := fun i => (R.getD i F).uploadResult u.generation
    ∃ (k : Nat) (last : Except Fault UploadResponse) (W : World) (qs : Array Request),
      1 ≤ k ∧ k ≤ left + 1 ∧ (∀ i, i + 1 < k → (uploadVerdict (x i)).isRetryable) ∧
      (k < left + 1 → (uploadVerdict last).isRetryable = false) ∧
      ((badContentType ct = false ∧ last = x (k - 1) ∧ qs.size = k) ∨
        (∃ e, last = .error e ∧ h.Unsent ct e ∧ qs.size = k - 1)) ∧
      W.network = .server (R.drop qs.size) F (Rc ++ qs) ∧
      (u.attemptsFrom a hint n left).run w = match uploadVerdict last with
        | .success r => (u.finish (n + k - 1) r).run W
        | .fatal e => (.error (.uploadAborted e.message u.logFile), W)
        | .retryable _ => (.error (.uploadFailed u.retries u.logFile), W) := by
  intro ct x
  -- on the attempts left, from any attempt number, world and server queue
  induction left generalizing n w R Rc with
  | zero =>
    obtain ⟨r, w₁, hrun, hout⟩ := h.uploadArchive_attempt a ct hint w hnet
    obtain ⟨W, qs, hlast, hW, hend⟩ :=
      u.attemptsFrom_http_stop a hint hr hg n 0 hrun (by rwa [hnet] at hout) (.inr rfl)
    refine ⟨1, r, W, qs, Nat.le_refl 1, Nat.le_refl 1, fun i hi => by omega, fun h1 => by omega,
      hlast, hW, ?_⟩
    rw [hend, Nat.add_sub_cancel]
  | succ left ih =>
    obtain ⟨r, w₁, hrun, hout⟩ := h.uploadArchive_attempt a ct hint w hnet
    rw [hnet] at hout
    by_cases hmore : (uploadVerdict r).isRetryable = true
    · -- a retryable result was sent: one request, a wait, and the loop on the rest of the queue
      obtain ⟨-, hr₀, q, hnet₁⟩ : badContentType ct = false ∧
          r = (R.headD F).uploadResult h.generation ∧ ∃ q, w₁.network = .server R.tail F (Rc.push q) := by
        rcases hout with hsent | ⟨e, rfl, hun, -⟩
        · exact hsent
        · rw [HttpService.uploadVerdict_unsent hun] at hmore
          cases hmore
      have hrun' : (u.remote.uploadArchive a ct hint).run w = (r, w₁) := by
        rw [hr]
        exact hrun
      obtain ⟨w₂, hnet₂, hnext⟩ := u.attemptsFrom_retry a hint n left hrun' hmore
      obtain ⟨k, last, W, qs, hk1, hkle, hprefix, hstop, hlast, hW, hend⟩ :=
        ih (n + 1) w₂ (hnet₂.trans hnet₁)
      have hx : ∀ i, (R.tail.getD i F).uploadResult u.generation = x (i + 1) := fun i => by
        simp only [x, getD_tail]
      have hr₀' : r = x 0 := by
        rw [hr₀, hg, List.headD_eq_getD]
      refine ⟨k + 1, last, W, #[q] ++ qs, by omega, by omega, ?_, fun hlt => hstop (by omega), ?_, ?_, ?_⟩
      · -- every attempt before the last was retryable: this one, then those of the rest
        intro i hi
        cases i with
        | zero =>
          rw [← hr₀']
          exact hmore
        | succ i =>
          rw [← hx i]
          exact hprefix i (by omega)
      · rcases hlast with ⟨hok', hl, hsize⟩ | ⟨e, hl, hun, hsize⟩
        · refine .inl ⟨hok', ?_, ?_⟩
          · dsimp only at hl
            rw [hl, hx, Nat.sub_add_cancel hk1, Nat.add_sub_cancel]
          · rw [Array.size_append, hsize]
            exact Nat.add_comm 1 k
        · refine .inr ⟨e, hl, hun, ?_⟩
          rw [Array.size_append, hsize, show (#[q] : Array Request).size = 1 from rfl]
          omega
      · rw [hW, List.drop_tail, Array.push_eq_append, Array.append_assoc, Array.size_append,
          Nat.add_comm qs.size]
        rfl
      · rw [hnext, hend, show n + 1 + k - 1 = n + (k + 1) - 1 by omega]
    · -- a result that is not retried ends the loop
      obtain ⟨W, qs, hlast, hW, hend⟩ :=
        u.attemptsFrom_http_stop a hint hr hg n (left + 1) hrun hout (.inl (by simpa using hmore))
      refine ⟨1, r, W, qs, Nat.le_refl 1, by omega, fun i hi => by omega,
        fun _ => by simpa using hmore, hlast, hW, ?_⟩
      rw [hend, Nat.add_sub_cancel]

/-- **A content type that is not a media type ends the loop at its first attempt**, before any
request. -/
theorem attemptsFrom_badContentType {h : HttpService} (hr : u.remote = .http h) (n left : Nat)
    (w : World) {R : List Reply} {F : Reply} {Rc : Array Request} (hnet : w.network = .server R F Rc)
    (hbad : badContentType (u.generation.uploadContentType a) = true) :
    ∃ W : World, W.network = w.network ∧ (u.attemptsFrom a hint n left).run w =
      (.error (.uploadAborted (Fault.invalidContentType ("invalid media type: " ++
        u.generation.uploadContentType a)).message u.logFile), W) := by
  obtain ⟨r, w₁, hrun, ⟨hok, -⟩ | ⟨e, rfl, hun, hnet₁⟩⟩ :=
    h.uploadArchive_attempt a (u.generation.uploadContentType a) hint w hnet
  · rw [hbad] at hok
    cases hok
  · have hfatal := HttpService.uploadVerdict_unsent hun
    rw [HttpService.Unsent, if_pos hbad] at hun
    subst hun
    have hrun' : (u.remote.uploadArchive a (u.generation.uploadContentType a) hint).run w =
        (.error (.invalidContentType ("invalid media type: " ++ u.generation.uploadContentType a)),
          w₁) := by
      rw [hr]
      exact hrun
    obtain ⟨W, hW, hend⟩ := u.attemptsFrom_stop a hint n left hrun' (.inl (by rw [hfatal]; rfl))
    refine ⟨W, hW.trans hnet₁, ?_⟩
    rw [hend, hfatal]

end Uploader

/-! ## The upload -/

/-- **An upload against a server retries until a verdict, at most `max 1 retries` times.**
For every configuration, client of the same generation, store, sleeper, system name, artifact,
hint, world and server with replies `R` then `F`: an answer's status decides its verdict by
`statusVerdict`, so `2xx` succeeds, `413`, legacy `412` and modern `415` are fatal and every other
status is retried, and so are timeouts and failed connections. With `x i` the result of the `i`-th
reply, the upload makes `k ≤ max 1 retries` attempts, every one but the last retryable, and stops
before the last allowed one only on a result that is not; the last attempt got `x (k - 1)`, or
failed before sending (`HttpService.Unsent`); the server received `k` requests, or `k - 1`; the
verdict on the last result ends the upload. A content type that is not a media type ends it at the
first attempt, before any request. -/
theorem http_upload_ends_by_verdict (c : AgentConfig) (h : HttpService)
    (hg : h.generation = c.protocol) (store : StateStore) (sleeper : Sleeper) (system : String)
    (a : Artifact) (hint : Option Duration) (w : World) (R : List Reply) (F : Reply)
    (Rc : Array Request) (hnet : w.network = .server R F Rc) :
    let u := Uploader.ofConfig c (.http h) store sleeper system
    let N := max c.retries 1
    let ct := c.protocol.uploadContentType a
    let x := fun i => (R.getD i F).uploadResult c.protocol
    (∀ s b, uploadVerdict ((Reply.answer ⟨s, b⟩).uploadResult c.protocol) =
      statusVerdict c.protocol s b) ∧
    (∀ s b, (statusVerdict c.protocol s b).isRetryable = false ↔
      (200 ≤ s ∧ s < 300) ∨ s = 413 ∨ (c.protocol = .legacy ∧ s = 412) ∨
        (c.protocol = .modern ∧ s = 415)) ∧
    (∀ m, (uploadVerdict (Reply.timeout.uploadResult c.protocol)).isRetryable ∧
      (uploadVerdict ((Reply.failure m).uploadResult c.protocol)).isRetryable) ∧
    (∃ (k : Nat) (last : Except Fault UploadResponse) (W : World) (qs : Array Request),
      1 ≤ k ∧ k ≤ N ∧ (∀ i, i + 1 < k → (uploadVerdict (x i)).isRetryable) ∧
      (k < N → (uploadVerdict last).isRetryable = false) ∧
      ((badContentType ct = false ∧ last = x (k - 1) ∧ qs.size = k) ∨
        (∃ e, last = .error e ∧ h.Unsent ct e ∧ qs.size = k - 1)) ∧
      W.network = .server (R.drop qs.size) F (Rc ++ qs) ∧
      (u.upload a hint).run w = match uploadVerdict last with
        | .success r => (u.finish k r).run W
        | .fatal e => (.error (.uploadAborted e.message c.loggingFile), W)
        | .retryable _ => (.error (.uploadFailed N c.loggingFile), W)) ∧
    (badContentType ct = true → ∃ W : World, W.network = w.network ∧ (u.upload a hint).run w =
      (.error (.uploadAborted (Fault.invalidContentType ("invalid media type: " ++ ct)).message
        c.loggingFile), W)) := by
  intro u N ct x
  have hN : N - 1 + 1 = N := Nat.sub_add_cancel (Nat.le_max_right _ _)
  -- the upload reports what it sends, then runs the loop from its first attempt
  obtain ⟨w₁, h₁, hw₁⟩ := run_debug _ w
  have hnet₁ : w₁.network = w.network := (World.HostOnly.of_logOnly hw₁).network_eq
  have hupload : (u.upload a hint).run w = (u.attemptsFrom a hint 1 (N - 1)).run w₁ := by
    unfold Uploader.upload
    rw [run_bind_ok h₁]
    rfl
  refine ⟨uploadVerdict_answer c.protocol, statusVerdict_isRetryable c.protocol,
    uploadVerdict_noAnswer c.protocol, ?_, fun hbad => ?_⟩
  · obtain ⟨k, last, W, qs, hk1, hkle, hprefix, hstop, hlast, hW, hend⟩ :=
      u.attemptsFrom_http a hint rfl hg (N - 1) 1 w₁ (hnet₁.trans hnet)
    refine ⟨k, last, W, qs, hk1, hN ▸ hkle, hprefix, fun hlt => hstop (hN ▸ hlt), hlast, hW, ?_⟩
    rw [hupload, hend, Nat.add_sub_cancel_left]
    rfl
  · obtain ⟨W, hW, hend⟩ :=
      u.attemptsFrom_badContentType a hint rfl 1 (N - 1) w₁ (hnet₁.trans hnet) hbad
    refine ⟨W, hW.trans hnet₁, ?_⟩
    rw [hupload, hend]
    rfl

/-- A modern upload told to retry three times, against a server that fails once and times out
once before it accepts. -/
theorem http_upload_ends_by_verdict_retried :
    let c : AgentConfig := { legacyUpload := false, retries := 3 }
    let h : HttpService := { (default : HttpService) with generation := .modern }
    let w : World :=
      { network := .server [.answer ⟨500, ""⟩, .timeout] (.answer ⟨201, ""⟩) #[] }
    h.generation = c.protocol ∧
      w.network = .server [.answer ⟨500, ""⟩, .timeout] (.answer ⟨201, ""⟩) #[] ∧
      ∃ k, 1 ≤ k ∧ k ≤ 3 := by
  intro c h w
  obtain ⟨-, -, -, ⟨k, -, -, -, hk1, hkN, -⟩, -⟩ :=
    http_upload_ends_by_verdict c h rfl ⟨"state"⟩ .recording "host" ⟨ByteArray.empty, "", none⟩
      none w _ _ _ rfl
  exact ⟨rfl, rfl, k, hk1, hkN⟩

end HostAgent
