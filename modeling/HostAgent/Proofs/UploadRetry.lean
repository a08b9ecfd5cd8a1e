import HostAgent.Upload
import HostAgent.Proofs.Agent

/-!
# `Proofs.UploadRetry` — how many attempts an upload makes, and how it ends

The upload loop (`Uploader.upload`) is proved against the scripted remote service, whose answers
to uploads are its queue followed by its default answer (`ScriptedService.uploadAnswer`); since the
queue is arbitrary, so is every prefix of the answers the loop can see. The main statement,
`upload_retries_until_verdict`, says for every configuration, artifact, duration hint and script:

* an attempt's result is judged the same way in both generations (`uploadVerdict`): a `2xx`
  answer is a success; another answer, a timeout, a transport fault or a status fault is
  retryable; every other fault is fatal (`Generation.verdict_eq_uploadVerdict`);
* the loop makes `k = attemptsMade x (N - 1)` attempts, `N = max 1 retries`: up to the first
  result that is not retryable, or `N` (`attemptsMade_pos`, `attemptsMade_le`,
  `isRetryable_of_lt_attemptsMade`, `not_isRetryable_of_attemptsMade_lt`);
* every attempt sends the same bytes, content type and hint, the service counts `k` uploads
  and has used `k` answers of its queue, and the recording sleeper holds `k - 1` more waits of
  the back-off;
* the `k`-th result decides the end: a success is recorded by `Uploader.finish`, a fatal fault
  ends with `uploadAborted`, and a retryable one (only when `k = N`) with `uploadFailed`.
  Nothing else of the world changes but the journal.

The induction is on the attempts left (`Uploader.attemptsFrom_run`): one attempt takes one answer
of the queue, and a retryable one is followed by one wait and the loop on the rest of the queue.
-/

namespace HostAgent

open HostAgent.Config HostAgent.Remote HostAgent.Time

/-! ## Judging an attempt, the same way in both generations -/

/-- The verdict on an attempt's result: success on a `2xx` answer; another answer, a timeout, a
transport fault or a status fault is retryable; any other fault is fatal. -/
def uploadVerdict : Except Fault UploadResponse → Verdict
  | .ok r => if r.isSuccess then .success r else .retryable (some r.status)
  | .error .timeout | .error (.transport _) => .retryable none
  | .error (.status s _) => .retryable (some s)
  | .error e => .fatal e

/-- Whether a verdict asks for another attempt. -/
def Verdict.isRetryable : Verdict → Bool
  | .retryable _ => true
  | _ => false

/-- **The fatal set is the same in both generations.** Each generation's own fatal faults are
none of the retryable ones, so they fall where the catch-all puts them anyway. -/
theorem Config.Generation.verdict_eq_uploadVerdict (g : Generation) (x : Except Fault UploadResponse) :
    g.verdict x = uploadVerdict x := by
  cases x with
  | ok r => rfl
  | error e => cases g <;> cases e <;> rfl

/-- Judging an attempt only logs, and gives its verdict. -/
theorem Uploader.judge_run (u : Uploader) (x : Except Fault UploadResponse) (w : World) :
    ∃ j, (u.judge x).run w = (.ok (uploadVerdict x), { w with journal := j }) := by
  rw [← u.generation.verdict_eq_uploadVerdict x]
  unfold Uploader.judge
  -- one case per kind of result, and in each one whether it is reported
  split <;> (try split) <;>
    simp only [Agent.run_map, Agent.run_log, Agent.run_pure, Agent.debug, Agent.warn, bind_pure_comp,
      Except.map] <;>
    exact ⟨_, rfl⟩

/-! ## How many attempts a loop makes -/

/-- The attempts a loop makes when attempt `i` (from `0`) gets `x i` and `left` more attempts are
allowed after the first: it goes on while the results are retryable. -/
def attemptsMade (x : Nat → Except Fault UploadResponse) : Nat → Nat
  | 0 => 1
  | left + 1 =>
    if (uploadVerdict (x 0)).isRetryable then attemptsMade (fun i => x (i + 1)) left + 1 else 1

theorem attemptsMade_pos (x : Nat → Except Fault UploadResponse) (left : Nat) :
    1 ≤ attemptsMade x left := by
  cases left with
  | zero => simp [attemptsMade]
  | succ left =>
    unfold attemptsMade
    split <;> omega

theorem attemptsMade_le (x : Nat → Except Fault UploadResponse) (left : Nat) :
    attemptsMade x left ≤ left + 1 := by
  induction left generalizing x with
  | zero => simp [attemptsMade]
  | succ left ih =>
    unfold attemptsMade
    split
    · have := ih (fun i => x (i + 1))
      omega
    · omega

/-- Every attempt before the last one got a retryable result. -/
theorem isRetryable_of_lt_attemptsMade (x : Nat → Except Fault UploadResponse) (left i : Nat)
    (hi : i + 1 < attemptsMade x left) : (uploadVerdict (x i)).isRetryable := by
  induction left generalizing x i with
  | zero => simp [attemptsMade] at hi
  | succ left ih =>
    unfold attemptsMade at hi
    split at hi
    · cases i with
      | zero => assumption
      | succ i => exact ih (fun i => x (i + 1)) i (by omega)
    · omega

/-- A loop that stops before its last allowed attempt stopped on a result that is not retryable. -/
theorem not_isRetryable_of_attemptsMade_lt (x : Nat → Except Fault UploadResponse) (left : Nat)
    (h : attemptsMade x left < left + 1) :
    (uploadVerdict (x (attemptsMade x left - 1))).isRetryable = false := by
  induction left generalizing x with
  | zero => simp [attemptsMade] at h
  | succ left ih =>
    unfold attemptsMade at h ⊢
    split
    · rename_i hr
      rw [if_pos hr] at h
      have hpos := attemptsMade_pos (fun i => x (i + 1)) left
      have := ih (fun i => x (i + 1)) (by omega)
      rwa [Nat.add_sub_cancel, ← Nat.sub_add_cancel hpos]
    · rename_i hr
      simpa using hr

/-- Two timeouts, then a `201`: the third attempt of five is the last. -/
example : attemptsMade (fun i => if i < 2 then .error .timeout else .ok ⟨201, ""⟩) 4 = 3 := by
  decide

/-! ## The uploads of the scripted service -/

namespace Remote.ScriptedService

/-- The answer to the `i`-th upload (from `0`) from now on: the queue, then the default. -/
def uploadAnswer (s : ScriptedService) (i : Nat) : Except Fault UploadResponse :=
  ((s.uploads[i]?).getD s.defaultUpload).mapError Failure.toFault

/-- The service after it took `k` uploads with the same arguments. -/
def afterUploads (s : ScriptedService) (call : UploadCall) (k : Nat) : ScriptedService :=
  { s with calls := { s.calls with uploadArchive := s.calls.uploadArchive + k }
           uploadCalls := s.uploadCalls ++ Array.replicate k call
           uploads := s.uploads.drop k
           history := s.history ++ Array.replicate k .uploadArchive }

@[simp] theorem run_answer {α : Type} (r : Scripted α) (w : World) :
    (answer r).run w = (r.mapError Failure.toFault, w) := by
  cases r <;> rfl

/-- One upload: the next answer, one more call counted and recorded, one answer used. -/
theorem uploadArchive_run (a : Artifact) (ct : String) (hint : Option Duration) (w : World) :
    (uploadArchive a ct hint).run w =
      (w.service.uploadAnswer 0, { w with service := w.service.afterUploads ⟨a.bytes, ct, hint⟩ 1 }) := by
  rcases hs : w.service with ⟨reg, rr, ur, ups, du, rules, calls, uc, hist⟩
  cases ups <;>
    simp [uploadArchive, update, current, Agent.run_bind, hs, uploadAnswer, afterUploads]

theorem uploadAnswer_afterUploads (s : ScriptedService) (call : UploadCall) (k : Nat) :
    (s.afterUploads call k).uploadAnswer = fun i => s.uploadAnswer (i + k) := by
  funext i
  simp [uploadAnswer, afterUploads, List.getElem?_drop, Nat.add_comm]

theorem afterUploads_afterUploads (s : ScriptedService) (call : UploadCall) (k l : Nat) :
    (s.afterUploads call k).afterUploads call l = s.afterUploads call (k + l) := by
  simp only [afterUploads, Nat.add_assoc, List.drop_drop, Array.append_assoc,
    Array.replicate_append_replicate]

end Remote.ScriptedService

/-! ## The loop -/

namespace Uploader

/-- The scripted remote of an uploader takes one upload. -/
theorem uploadArchive_run (u : Uploader) (hr : u.remote = .scripted) (a : Artifact)
    (hint : Option Duration) (w : World) :
    (u.remote.uploadArchive a (u.generation.uploadContentType a) hint).run w =
      (w.service.uploadAnswer 0,
        { w with service := (w.service.afterUploads ⟨a.bytes, u.generation.uploadContentType a, hint⟩ 1) }) := by
  rw [hr]
  exact ScriptedService.uploadArchive_run a _ hint w

/-- The recording sleeper records the wait. -/
theorem sleep_run (u : Uploader) (hs : u.sleeper = .recording) (d : Duration) (w : World) :
    (u.sleeper.sleep d).run w = (.ok (), { w with sleeps := w.sleeps.push d }) := by
  rw [hs]
  rfl

/-- **The loop from attempt `n` with `left` more attempts allowed.** It makes
`k = attemptsMade x left` attempts on the scripted service, waits between them, and ends by the
verdict on the `k`-th result; attempts are numbered from `n`. -/
theorem attemptsFrom_run (u : Uploader) (hr : u.remote = .scripted) (hs : u.sleeper = .recording)
    (a : Artifact) (hint : Option Duration) (left n : Nat) (w : World) :
    let call : UploadCall := ⟨a.bytes, u.generation.uploadContentType a, hint⟩
    let k := attemptsMade w.service.uploadAnswer left
    ∃ j, (u.attemptsFrom a hint n left).run w =
      let W := { w with service := w.service.afterUploads call k,
                        sleeps := w.sleeps ++ Array.replicate (k - 1) u.backoff, journal := j }
      match uploadVerdict (w.service.uploadAnswer (k - 1)) with
      | .success r => (u.finish (n + k - 1) r).run W
      | .fatal e => (.error (.uploadAborted e.message u.logFile), W)
      | .retryable _ => (.error (.uploadFailed u.retries u.logFile), W) := by
  intro call
  -- on the attempts left; each case first runs one attempt, which takes one answer of the queue
  induction left generalizing n w with
  | zero =>
    obtain ⟨j, hj⟩ := u.judge_run (w.service.uploadAnswer 0)
      { w with service := w.service.afterUploads call 1 }
    rw [attemptsFrom.eq_1, Agent.run_bind_ok (Agent.run_capture (u.uploadArchive_run hr a hint w)),
      Agent.run_bind_ok hj]
    simp only [attemptsMade, Nat.sub_self, Nat.add_sub_cancel, Array.replicate_zero,
      Array.append_empty]
    cases hv : uploadVerdict (w.service.uploadAnswer 0) with
    | success r => exact ⟨j, rfl⟩
    | fatal e =>
      simp only [Agent.run_bind, Agent.run_log, Agent.error, Agent.run_throw]
      exact ⟨_, rfl⟩
    | retryable st =>
      simp only [Agent.run_bind, Agent.run_log, Agent.error, Agent.run_throw]
      exact ⟨_, rfl⟩
  | succ left ih =>
    obtain ⟨j, hj⟩ := u.judge_run (w.service.uploadAnswer 0)
      { w with service := w.service.afterUploads call 1 }
    rw [attemptsFrom.eq_2, Agent.run_bind_ok (Agent.run_capture (u.uploadArchive_run hr a hint w)),
      Agent.run_bind_ok hj]
    simp only [attemptsMade]
    cases hv : uploadVerdict (w.service.uploadAnswer 0) with
    | success r =>
      simp only [Verdict.isRetryable, Bool.false_eq_true, if_false, Nat.sub_self, Nat.add_sub_cancel,
        Array.replicate_zero, Array.append_empty, hv]
      exact ⟨j, rfl⟩
    | fatal e =>
      simp only [Verdict.isRetryable, Bool.false_eq_true, if_false, Nat.sub_self, Array.replicate_zero,
        Array.append_empty, hv, Agent.run_bind, Agent.run_log, Agent.error, Agent.run_throw]
      exact ⟨_, rfl⟩
    | retryable st =>
      -- a report, a wait, and the loop on the rest of the queue from the next attempt
      simp only [Verdict.isRetryable, if_true]
      obtain ⟨w₃, h₃, hw₃⟩ := Agent.run_error _ { w with service := w.service.afterUploads call 1, journal := j }
      rw [Agent.run_bind_ok h₃]
      obtain ⟨w₄, h₄, hw₄⟩ := Agent.run_info _ w₃
      rw [Agent.run_bind_ok h₄, Agent.run_bind_ok (u.sleep_run hs u.backoff w₄)]
      obtain ⟨j', hj'⟩ := ih (n + 1) { w₄ with sleeps := w₄.sleeps.push u.backoff }
      rw [hj']
      refine ⟨j', ?_⟩
      have hw : w₄ = { w with service := w.service.afterUploads call 1, journal := w₄.journal } :=
        (World.LogOnly.withJournal { w with service := w.service.afterUploads call 1 } j).trans
          (hw₃.trans hw₄)
      rw [hw]
      dsimp only
      rw [ScriptedService.uploadAnswer_afterUploads, ScriptedService.afterUploads_afterUploads]
      -- the rest of the loop made `m + 1` attempts, so this one made `m + 2`
      obtain ⟨m, hm⟩ : ∃ m, attemptsMade (fun i => w.service.uploadAnswer (i + 1)) left = m + 1 :=
        ⟨_, (Nat.succ_pred_eq_of_pos (attemptsMade_pos _ left)).symm⟩
      rw [hm, show n + 1 + (m + 1) - 1 = n + (m + 1 + 1) - 1 by omega, Nat.add_comm 1 (m + 1)]
      simp only [Nat.add_sub_cancel, Array.replicate_succ', Array.append_singleton_assoc]

end Uploader

/-! ## The upload -/

/-- **An upload makes attempts until a result is not retryable, at most `max 1 retries`.**
For every configuration, system name, artifact, hint and world: let `x` be the scripted
service's answers and `k` the attempts the loop makes on them, the first result that is not
retryable or the last allowed one. Then `k` is that number, the service took `k` uploads with
the same bytes, content type and hint, the recording sleeper holds `k - 1` more back-off waits,
and the verdict on the `k`-th result ends the upload; nothing else but the journal changed. -/
theorem upload_retries_until_verdict (c : AgentConfig) (store : Store.StateStore) (system : String)
    (a : Artifact) (hint : Option Duration) (w : World) :
    let u := Uploader.ofConfig c .scripted store .recording system
    let N := max c.retries 1
    let x := w.service.uploadAnswer
    let k := attemptsMade x (N - 1)
    let call : UploadCall := ⟨a.bytes, c.protocol.uploadContentType a, hint⟩
    (1 ≤ k ∧ k ≤ N ∧ (∀ i, i + 1 < k → (uploadVerdict (x i)).isRetryable) ∧
      (k < N → (uploadVerdict (x (k - 1))).isRetryable = false)) ∧
    ∃ j, (u.upload a hint).run w =
      let W := { w with service := w.service.afterUploads call k,
                        sleeps := w.sleeps ++ Array.replicate (k - 1) c.backoff, journal := j }
      match uploadVerdict (x (k - 1)) with
      | .success r => (u.finish k r).run W
      | .fatal e => (.error (.uploadAborted e.message c.loggingFile), W)
      | .retryable _ => (.error (.uploadFailed N c.loggingFile), W) := by
  intro u N x k call
  have hN : N - 1 + 1 = N := Nat.sub_add_cancel (Nat.le_max_right _ _)
  refine ⟨⟨attemptsMade_pos x _, hN ▸ attemptsMade_le x _, isRetryable_of_lt_attemptsMade x _,
    fun h => not_isRetryable_of_attemptsMade_lt x _ (hN ▸ h)⟩, ?_⟩
  obtain ⟨w₁, h₁, hw₁⟩ := Agent.run_debug _ w
  obtain ⟨j, hj⟩ := u.attemptsFrom_run rfl rfl a hint (N - 1) 1 w₁
  refine ⟨j, ?_⟩
  unfold Uploader.upload
  rw [Agent.run_bind_ok h₁, show u.retries = N from rfl, hj, hw₁, Nat.add_sub_cancel_left]
  rfl

end HostAgent
