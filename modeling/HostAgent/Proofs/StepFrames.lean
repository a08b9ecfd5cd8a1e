import HostAgent.Proofs.Agent
import HostAgent.Store.Identity
import HostAgent.Sleeper

/-!
# `Proofs.StepFrames` — what a step of the agent reads, and what it changes

Two frames for the steps that touch only the host:

* **What is logged is never read.** Log events and open spans are written by the agent and read
  by nobody in it. Two worlds that differ only there (`World.EqExceptLog`) are the same to every
  step: it answers the same and leaves two worlds that again differ only there
  (`Agent.LogBlind`). The combinators follow the shape of a `do` block (`LogBlind.bind`,
  `LogBlind.tryCatch`), each primitive step gets one lemma, and a span is blind when its body is
  (`LogBlind.inSpan`).
* **Steps of the host alone** (`World.HostOnly`) change only the files, the clock, the random
  source, the journal and the recorded waits: the remote service, the network, the environment
  and the working directory stay.

Between the two, the store's steps are taken once for every reflexive and transitive frame
(`writeAtomic_within_of`, `writeMarker_within_of`, `MachineIdentity.resolve_within_of`, …): a
frame names what its primitive steps do, and this module's frame and those of later modules
take the store's steps from these lemmas.

The store's operations, sleeping and resolving the machine identifier are in both frames
(`MachineIdentity.resolve_logBlind`, `MachineIdentity.resolve_hostOnly`): a call that resolves
the identifier inside a span resolves it exactly as it would outside, and leaves the network
alone. They also fail only with a fault of the host (`Fault.Local`, `Agent.FailsWith`,
`MachineIdentity.resolve_failsLocal`), never with one of the remote service.
-/

namespace HostAgent

open HostAgent.Host HostAgent.Store

/-- `w'` is `w` with another journal and other open spans. -/
def World.EqExceptLog (w w' : World) : Prop :=
  ∃ (j : Array Event) (sp : List String), w' = { w with journal := j, spans := sp }

namespace World.EqExceptLog

variable {w w₁ w₂ w₃ : World}

theorem refl (w : World) : w.EqExceptLog w := ⟨w.journal, w.spans, rfl⟩

theorem symm (h : w₁.EqExceptLog w₂) : w₂.EqExceptLog w₁ := by
  obtain ⟨j, sp, rfl⟩ := h
  exact ⟨w₁.journal, w₁.spans, rfl⟩

theorem trans (h₁ : w₁.EqExceptLog w₂) (h₂ : w₂.EqExceptLog w₃) : w₁.EqExceptLog w₃ := by
  obtain ⟨j, sp, rfl⟩ := h₁
  obtain ⟨j', sp', rfl⟩ := h₂
  exact ⟨j', sp', rfl⟩

theorem of_logOnly (h : w₁.LogOnly w₂) : w₁.EqExceptLog w₂ := ⟨w₂.journal, w₁.spans, h⟩

theorem withLog (w : World) (j : Array Event) (sp : List String) :
    w.EqExceptLog { w with journal := j, spans := sp } := ⟨j, sp, rfl⟩

end World.EqExceptLog

namespace Agent

variable {α β : Type}

/-- `act` reads neither the journal nor the open spans: from two worlds equal up to them it
answers the same and leaves two worlds equal up to them. -/
def LogBlind (act : Agent α) : Prop :=
  ∀ w w', w.EqExceptLog w' → (act.run w).1 = (act.run w').1 ∧ (act.run w).2.EqExceptLog (act.run w').2

namespace LogBlind

theorem pure (a : α) : LogBlind (pure a : Agent α) := fun _ _ h => ⟨rfl, h⟩

theorem throw (e : Fault) : LogBlind (throw e : Agent α) := fun _ _ h => ⟨rfl, h⟩

theorem bind {x : Agent α} {f : α → Agent β} (hx : LogBlind x) (hf : ∀ a, LogBlind (f a)) :
    LogBlind (x >>= f) := by
  intro w w' h
  obtain ⟨hres, hworld⟩ := hx w w' h
  rcases hr : x.run w with ⟨_ | a, v⟩ <;> rcases hr' : x.run w' with ⟨_ | a', v'⟩ <;>
    rw [hr, hr'] at hres hworld <;> cases hres
  · rw [run_bind_error hr, run_bind_error hr']
    exact ⟨rfl, hworld⟩
  · rw [run_bind_ok hr, run_bind_ok hr']
    exact hf a v v' hworld

theorem tryCatch {x : Agent α} {h : Fault → Agent α} (hx : LogBlind x) (hh : ∀ e, LogBlind (h e)) :
    LogBlind (tryCatch x h) := by
  intro w w' hw
  obtain ⟨hres, hworld⟩ := hx w w' hw
  rcases hr : x.run w with ⟨e | a, v⟩ <;> rcases hr' : x.run w' with ⟨e' | a', v'⟩ <;>
    rw [hr, hr'] at hres hworld <;> cases hres
  · rw [run_tryCatch_error hr, run_tryCatch_error hr']
    exact hh e v v' hworld
  · rw [run_tryCatch_ok hr, run_tryCatch_ok hr']
    exact ⟨rfl, hworld⟩

theorem capture {x : Agent α} (hx : LogBlind x) : LogBlind (capture x) :=
  tryCatch (bind hx fun _ => pure _) fun _ => pure _

theorem log (l : Level) (m : String) : LogBlind (log l m) := by
  intro w w' h
  rw [run_log, run_log]
  exact ⟨rfl, (World.EqExceptLog.of_logOnly (World.LogOnly.withJournal w _)).symm.trans
    (h.trans (World.EqExceptLog.of_logOnly (World.LogOnly.withJournal w' _)))⟩

theorem query (q : FileTree → Location → α) : LogBlind (query q) := by
  rintro w w' ⟨j, sp, rfl⟩
  rw [run_query, run_query]
  exact ⟨rfl, j, sp, rfl⟩

theorem attempt (f : FileTree → Location → Except IoError FileTree) : LogBlind (attempt f) := by
  rintro w w' ⟨j, sp, rfl⟩
  rw [run_attempt, run_attempt]
  dsimp only
  split
  · exact ⟨rfl, j, sp, rfl⟩
  · exact ⟨rfl, j, sp, rfl⟩

theorem orIo (r : Except IoError α) : LogBlind (orIo r) := by
  cases r
  · exact throw _
  · exact pure _

theorem change (f : FileTree → Location → Except IoError FileTree) : LogBlind (change f) :=
  bind (attempt f) fun r => orIo r

theorem now : LogBlind now := by
  rintro w w' ⟨j, sp, rfl⟩
  exact ⟨rfl, j, sp, rfl⟩

theorem random64 : LogBlind random64 := by
  rintro w w' ⟨j, sp, rfl⟩
  rw [run_random64, run_random64]
  -- the drawn word stays abstract: evaluating `splitMix` here would compute the generator
  exact ⟨rfl, j, sp, rfl⟩

theorem random128 : LogBlind random128 :=
  bind random64 fun _ => bind random64 fun _ => pure _

theorem cwd : LogBlind cwd := by
  rintro w w' ⟨j, sp, rfl⟩
  exact ⟨rfl, j, sp, rfl⟩

theorem syncOpened (path : String) : LogBlind (syncOpened path) := by
  rintro w w' ⟨j, sp, rfl⟩
  unfold Agent.syncOpened
  rw [run_bind_ok (run_get w), run_bind_ok (run_get _)]
  dsimp only
  split
  · exact ⟨rfl, j, sp, rfl⟩
  · exact ⟨rfl, j, sp, rfl⟩

theorem writeOpened (path : String) (data : ByteArray) : LogBlind (writeOpened path data) := by
  rintro w w' ⟨j, sp, rfl⟩
  unfold Agent.writeOpened
  by_cases hempty : data.isEmpty = true
  · simp only [hempty, ↓reduceIte]
    exact ⟨rfl, j, sp, rfl⟩
  · simp only [hempty, Bool.false_eq_true, ↓reduceIte]
    rw [run_bind_ok (run_get w), run_bind_ok (run_get _)]
    dsimp only
    -- the storage answers alike in both worlds
    split
    · exact ⟨rfl, j, sp, rfl⟩
    · exact attempt _ w _ ⟨j, sp, rfl⟩

end LogBlind

/-- **A span runs its body inside the span and closes it**: the body's answer, and the world it
leaves with the spans of before. -/
theorem run_inSpan (label : String) (act : Agent α) (w : World) :
    (inSpan label act).run w =
      ((act.run { w with spans := w.spans ++ [label] }).1,
        { (act.run { w with spans := w.spans ++ [label] }).2 with spans := w.spans }) := by
  unfold inSpan
  rw [run_bind_ok (run_get w), run_bind_ok (run_modify _ w)]
  rcases hr : act.run { w with spans := w.spans ++ [label] } with ⟨e | a, v⟩
  · -- the handler closes the span and throws the fault again
    rw [run_bind_error (run_tryCatch_error hr _)]
  · rw [run_bind_ok (run_tryCatch_ok hr _), run_bind_ok (run_modify _ v)]
    rfl

/-- A span whose body is log-blind is log-blind. -/
theorem LogBlind.inSpan (label : String) {act : Agent α} (h : LogBlind act) :
    LogBlind (inSpan label act) := by
  intro w w' hw
  rw [run_inSpan, run_inSpan]
  have hin : ({ w with spans := w.spans ++ [label] } : World).EqExceptLog
      { w' with spans := w'.spans ++ [label] } := by
    obtain ⟨j, sp, rfl⟩ := hw
    exact ⟨j, sp ++ [label], rfl⟩
  obtain ⟨hres, hworld⟩ := h _ _ hin
  refine ⟨hres, ?_⟩
  obtain ⟨j, sp, heq⟩ := hworld
  exact ⟨j, w'.spans, by rw [heq]⟩

/-- A log-blind step's answer is the same from a world with any other journal and spans. -/
theorem LogBlind.run_fst {act : Agent α} (h : LogBlind act) (w : World) (j : Array Event)
    (sp : List String) : (act.run { w with journal := j, spans := sp }).1 = (act.run w).1 :=
  (h _ _ (World.EqExceptLog.withLog w j sp)).1.symm

end Agent

/-! ## The store and the machine identifier -/

namespace Store.StateStore

open Agent

variable (s : StateStore)

theorem removeIfExists_logBlind (path : String) : LogBlind (removeIfExists path) := by
  unfold removeIfExists
  refine LogBlind.bind (LogBlind.attempt _) fun r => ?_
  split
  · exact LogBlind.pure _
  · exact LogBlind.pure _
  · exact LogBlind.throw _

theorem tempName_logBlind : LogBlind tempName :=
  LogBlind.bind LogBlind.random64 fun _ => LogBlind.pure _

theorem createTemp_logBlind (tries : Nat) : LogBlind (s.createTemp tries) := by
  induction tries with
  | zero => exact LogBlind.throw _
  | succ tries ih =>
    rw [createTemp]
    refine LogBlind.bind tempName_logBlind fun _ => LogBlind.bind (LogBlind.attempt _) fun r => ?_
    -- made, taken and drawn again, or failed
    split
    · exact LogBlind.pure _
    · exact ih
    · exact LogBlind.bind LogBlind.cwd fun _ => LogBlind.throw _

theorem onTemp_logBlind (tmp : String) {step : Agent (Except IoError Unit)} (hstep : LogBlind step)
    (report : IoError → Fault) : LogBlind (onTemp tmp step report) := by
  unfold onTemp
  refine LogBlind.bind hstep fun r => ?_
  split
  · exact LogBlind.pure _
  · exact LogBlind.bind (LogBlind.attempt _) fun _ => LogBlind.throw _

theorem writeAtomic_logBlind (path : String) (bytes : ByteArray) :
    LogBlind (s.writeAtomic path bytes) := by
  unfold writeAtomic
  exact LogBlind.bind (LogBlind.change _) fun _ => LogBlind.bind (s.createTemp_logBlind _) fun tmp =>
    LogBlind.bind LogBlind.cwd fun _ =>
    LogBlind.bind (onTemp_logBlind tmp (LogBlind.writeOpened _ _) _) fun _ =>
    LogBlind.bind (onTemp_logBlind tmp (LogBlind.syncOpened _) _) fun _ =>
    LogBlind.bind (onTemp_logBlind tmp (LogBlind.attempt _) _) fun _ =>
    onTemp_logBlind tmp (LogBlind.attempt _) _

theorem writeRecord_logBlind (r : Record) (bytes : ByteArray) :
    LogBlind (s.writeRecord r bytes) :=
  LogBlind.bind (s.writeAtomic_logBlind _ _) fun _ => LogBlind.log _ _

theorem readRecord_logBlind (r : Record) : LogBlind (s.readRecord r) := by
  unfold readRecord
  refine LogBlind.bind (LogBlind.query _) fun res => ?_
  split
  · exact LogBlind.pure _
  · exact LogBlind.pure _
  · exact LogBlind.throw _

end Store.StateStore

namespace Store.MachineIdentity

open Agent

variable (s : StateStore)

theorem load_logBlind : LogBlind (load s) := by
  unfold load
  refine LogBlind.bind (s.readRecord_logBlind _) fun r => ?_
  split
  · exact LogBlind.pure _
  · exact LogBlind.pure _

theorem generate_logBlind : LogBlind generate :=
  LogBlind.bind LogBlind.random128 fun _ => LogBlind.pure _

/-- **Resolving the machine identifier reads neither the journal nor the spans.** -/
theorem resolve_logBlind (regenerate : Bool) : LogBlind (resolve s regenerate) := by
  -- a new identifier, generated and stored, ends both branches
  have hnew : LogBlind (do
      let identity ← generate
      s.writeRecord Record.machineId identity.text.toUTF8
      info ("Generated new machine id " ++ identity.text)
      pure identity) :=
    LogBlind.bind (generate_logBlind) fun _ => LogBlind.bind (s.writeRecord_logBlind _ _) fun _ =>
      LogBlind.bind (LogBlind.log _ _) fun _ => LogBlind.pure _
  unfold resolve
  dsimp only
  split
  · exact LogBlind.bind (StateStore.removeIfExists_logBlind _) fun _ => hnew
  · refine LogBlind.bind (load_logBlind s) fun r => ?_
    split
    · exact LogBlind.bind (LogBlind.log _ _) fun _ => LogBlind.pure _
    · exact hnew

end Store.MachineIdentity

/-! ## The store's steps in any frame

A frame here is a reflexive and transitive relation between the world before a step and the
world after it. Every frame holds of a read, so the store's reads stay in every frame; its
writes stay in every frame that their primitive steps stay in. The frames below and in later
modules supply those steps and take the store's steps from these lemmas.
-/

section Frames

variable {R : World → World → Prop} [Std.Refl R] [Trans R R R]

namespace Store.StateStore

open Agent

theorem removeIfExists_within_of {path : String}
    (hremove : Within R (attempt fun t cwd => t.removeFile cwd path)) :
    Within R (removeIfExists path) := by
  unfold removeIfExists
  refine Within.bind hremove fun r => ?_
  -- removed, not there, or a fault
  split
  · exact Within.pure _
  · exact Within.pure _
  · exact Within.throw _

theorem createTemp_within_of (s : StateStore) (hname : Within R tempName)
    (hcreate : ∀ tmp, Within R (attempt fun t cwd => t.createNew cwd tmp .empty 0o600))
    (tries : Nat) : Within R (s.createTemp tries) := by
  -- on the tries left: each draws a name and tries to create it
  induction tries with
  | zero => exact Within.throw _
  | succ tries ih =>
    rw [createTemp]
    refine Within.bind hname fun _ => Within.bind (hcreate _) fun r => ?_
    split
    · exact Within.pure _
    · exact ih
    · exact Within.bind Within.cwd fun _ => Within.throw _

theorem onTemp_within_of {tmp : String} {step : Agent (Except IoError Unit)} (hstep : Within R step)
    (hcleanup : Within R (attempt fun t cwd => t.removeFile cwd tmp)) (report : IoError → Fault) :
    Within R (onTemp tmp step report) := by
  unfold onTemp
  refine Within.bind hstep fun r => ?_
  -- a failed step removes the temporary file and reports
  split
  · exact Within.pure _
  · exact Within.bind hcleanup fun _ => Within.throw _

theorem writeAtomic_within_of (s : StateStore) {path : String} {bytes : ByteArray}
    (hdirs : Within R (change fun t cwd => t.mkdirAll cwd s.dir 0o755)) (hname : Within R tempName)
    (hcreate : ∀ tmp, Within R (attempt fun t cwd => t.createNew cwd tmp .empty 0o600))
    (hwrite : ∀ tmp, Within R (attempt fun t cwd => t.writeFile cwd tmp bytes 0o600))
    (hchmod : ∀ tmp, Within R (attempt fun t cwd => t.chmod cwd tmp 0o600))
    (hrename : ∀ tmp, Within R (attempt fun t cwd => t.rename cwd tmp path))
    (hcleanup : ∀ tmp, Within R (attempt fun t cwd => t.removeFile cwd tmp)) :
    Within R (s.writeAtomic path bytes) := by
  unfold writeAtomic
  exact Within.bind hdirs fun _ => Within.bind (s.createTemp_within_of hname hcreate _) fun tmp =>
    Within.bind Within.cwd fun _ =>
    Within.bind (onTemp_within_of (Within.writeOpened (hwrite tmp)) (hcleanup tmp) _) fun _ =>
    Within.bind (onTemp_within_of (Within.syncOpened tmp) (hcleanup tmp) _) fun _ =>
    Within.bind (onTemp_within_of (hchmod tmp) (hcleanup tmp) _) fun _ =>
    onTemp_within_of (hrename tmp) (hcleanup tmp) _

theorem writeMarker_within_of (s : StateStore) {m : Marker}
    (hdelete : ∀ other, m.exclusiveWith = some other → Within R (s.deleteMarker other))
    (hwrite : ∀ bytes, Within R (s.writeAtomic (s.markerPath m) bytes))
    (hlog : ∀ l msg, Within R (log l msg)) : Within R (s.writeMarker m) := by
  have hstamp : Within R (do
      let stamp := (← now).rfc3339
      s.writeAtomic (s.markerPath m) stamp.toUTF8
      debug ("Wrote marker " ++ m.fileName)) :=
    Within.bind Within.now fun _ => Within.bind (hwrite _) fun _ => hlog _ _
  -- the excluded marker, when there is one, goes first
  rcases hex : m.exclusiveWith with _ | other
  · simp only [writeMarker, hex]
    exact hstamp
  · simp only [writeMarker, hex]
    exact Within.bind (hdelete other hex) fun _ => hstamp

theorem readRecord_within_of (s : StateStore) (r : Record) : Within R (s.readRecord r) := by
  unfold readRecord
  refine Within.bind (Within.query _) fun res => ?_
  -- read, not there, or a fault
  split
  · exact Within.pure _
  · exact Within.pure _
  · exact Within.throw _

theorem registrationState_within_of (s : StateStore) (hlog : ∀ l msg, Within R (log l msg)) :
    Within R s.registrationState := by
  unfold registrationState
  refine Within.bind (Within.query _) fun _ => Within.bind (Within.query _) fun _ => ?_
  -- both markers present is warned about
  split
  · exact Within.bind (hlog _ _) fun _ => Within.pure _
  · exact Within.pure _

end Store.StateStore

namespace Store.MachineIdentity

open Agent

theorem load_within_of (s : StateStore) : Within R (load s) := by
  unfold load
  refine Within.bind (s.readRecord_within_of _) fun res => ?_
  split
  · exact Within.pure _
  · exact Within.pure _

theorem resolve_within_of (s : StateStore) {regenerate : Bool}
    (hdelete : Within R (s.deleteRecord .machineId)) (hrandom : Within R random128)
    (hwrite : ∀ bytes, Within R (s.writeRecord .machineId bytes))
    (hlog : ∀ l msg, Within R (log l msg)) : Within R (resolve s regenerate) := by
  have hnew : Within R (do
      let identity ← generate
      s.writeRecord Record.machineId identity.text.toUTF8
      info ("Generated new machine id " ++ identity.text)
      pure identity) :=
    Within.bind (Within.bind hrandom fun _ => Within.pure _) fun _ =>
      Within.bind (hwrite _) fun _ => Within.bind (hlog _ _) fun _ => Within.pure _
  unfold resolve
  dsimp only
  split
  · exact Within.bind hdelete fun _ => hnew
  · refine Within.bind (load_within_of s) fun r => ?_
    -- an identifier already stored is kept; without one a new one is made
    split
    · exact Within.bind (hlog _ _) fun _ => Within.pure _
    · exact hnew

end Store.MachineIdentity

end Frames

/-! ## Steps of the host alone -/

/-- `w'` is `w` with other files, clock, random source, journal and recorded waits: the host
acted alone. -/
def World.HostOnly (w w' : World) : Prop :=
  w' = { w with files := w'.files, clock := w'.clock, entropy := w'.entropy,
                journal := w'.journal, sleeps := w'.sleeps }

namespace World.HostOnly

variable {w₁ w₂ w₃ : World}

theorem refl (w : World) : w.HostOnly w := rfl

theorem trans (h₁ : w₁.HostOnly w₂) (h₂ : w₂.HostOnly w₃) : w₁.HostOnly w₃ := by
  unfold World.HostOnly at *
  rw [h₂, h₁]

instance : Std.Refl World.HostOnly := ⟨refl⟩

instance : Trans World.HostOnly World.HostOnly World.HostOnly := ⟨trans⟩

theorem of_logOnly (h : w₁.LogOnly w₂) : w₁.HostOnly w₂ := by
  unfold World.LogOnly at h
  rw [h]
  rfl

/-- A new random state, kept abstract: comparing it with itself would evaluate `splitMix`. -/
theorem entropy (w : World) (e : UInt64) : w.HostOnly { w with entropy := e } := rfl

theorem network_eq (h : w₁.HostOnly w₂) : w₂.network = w₁.network := by
  rw [h]

theorem cwd_eq (h : w₁.HostOnly w₂) : w₂.cwd = w₁.cwd := by
  rw [h]

theorem service_eq (h : w₁.HostOnly w₂) : w₂.service = w₁.service := by
  rw [h]

end World.HostOnly

namespace Agent

variable {α : Type}

theorem hostOnly_of_logOnly {act : Agent α} (h : Within World.LogOnly act) :
    Within World.HostOnly act :=
  h.mono fun _ _ h => World.HostOnly.of_logOnly h

theorem hostOnly_log (l : Level) (m : String) : Within World.HostOnly (log l m) :=
  hostOnly_of_logOnly (logOnly_log l m)

theorem hostOnly_random64 : Within World.HostOnly random64 := by
  intro w
  rw [run_random64]
  exact World.HostOnly.entropy w _

theorem hostOnly_random128 : Within World.HostOnly random128 :=
  Within.bind hostOnly_random64 fun _ => Within.bind hostOnly_random64 fun _ => Within.pure _

theorem hostOnly_attempt (f : FileTree → Location → Except IoError FileTree) :
    Within World.HostOnly (attempt f) := by
  intro w
  rw [run_attempt]
  split
  · rfl
  · exact World.HostOnly.refl w

theorem hostOnly_change (f : FileTree → Location → Except IoError FileTree) :
    Within World.HostOnly (change f) := by
  intro w
  rw [run_change]
  split
  · rfl
  · exact World.HostOnly.refl w

/-- A loop over a list stays within `R` when each pass does. -/
theorem Within.forIn {R : World → World → Prop} [Std.Refl R] [Trans R R R] {β σ : Type}
    (l : List β) (init : σ) {f : β → σ → Agent (ForInStep σ)} (hf : ∀ b s, Within R (f b s)) :
    Within R (forIn l init f) := by
  -- on the list, from any accumulated state
  induction l generalizing init with
  | nil => exact Within.pure _
  | cons b l ih =>
    rw [List.forIn_cons]
    refine Within.bind (hf b init) fun step => ?_
    cases step with
    | done s => exact Within.pure _
    | yield s => exact ih s

end Agent

theorem Sleeper.sleep_hostOnly (sleeper : Sleeper) (d : Time.Duration) :
    Agent.Within World.HostOnly (sleeper.sleep d) := by
  cases sleeper with
  | real => exact Agent.Within.modify fun _ => rfl
  | recording => exact Agent.Within.modify fun _ => rfl

/-- Waiting always ends. -/
theorem Sleeper.sleep_ok (sleeper : Sleeper) (d : Time.Duration) (w : World) :
    ∃ w', (sleeper.sleep d).run w = (.ok (), w') := by
  cases sleeper with
  | real => exact ⟨_, rfl⟩
  | recording => exact ⟨_, rfl⟩

namespace Store.StateStore

open Agent

variable (s : StateStore)

theorem removeIfExists_hostOnly (path : String) : Within World.HostOnly (removeIfExists path) :=
  removeIfExists_within_of (hostOnly_attempt _)

theorem tempName_hostOnly : Within World.HostOnly tempName :=
  Within.bind hostOnly_random64 fun _ => Within.pure _

theorem writeAtomic_hostOnly (path : String) (bytes : ByteArray) :
    Within World.HostOnly (s.writeAtomic path bytes) :=
  s.writeAtomic_within_of (hostOnly_change _) tempName_hostOnly (fun _ => hostOnly_attempt _)
    (fun _ => hostOnly_attempt _) (fun _ => hostOnly_attempt _) (fun _ => hostOnly_attempt _)
    fun _ => hostOnly_attempt _

theorem writeRecord_hostOnly (r : Record) (bytes : ByteArray) :
    Within World.HostOnly (s.writeRecord r bytes) :=
  Within.bind (s.writeAtomic_hostOnly _ _) fun _ => hostOnly_log _ _

end Store.StateStore

namespace Store.MachineIdentity

open Agent

variable (s : StateStore)

/-- **Resolving the machine identifier is a step of the host alone.** -/
theorem resolve_hostOnly (regenerate : Bool) : Within World.HostOnly (resolve s regenerate) :=
  resolve_within_of s (StateStore.removeIfExists_hostOnly _) hostOnly_random128
    (s.writeRecord_hostOnly _) hostOnly_log

end Store.MachineIdentity

/-! ## What a step of the host can fail with -/

/-- A fault of the host itself: an input or output error, or local state that cannot be used. -/
def Fault.Local : Fault → Prop
  | .io _ | .state _ => True
  | _ => False

namespace Agent

variable {α β : Type}

/-- Every fault that `act` can end with satisfies `P`. -/
def FailsWith (P : Fault → Prop) (act : Agent α) : Prop :=
  ∀ w e, (act.run w).1 = .error e → P e

namespace FailsWith

variable {P : Fault → Prop}

/-- A step that always answers fails with nothing. -/
theorem of_ok {act : Agent α} (h : ∀ w, ∃ a, (act.run w).1 = .ok a) : FailsWith P act := by
  intro w e he
  obtain ⟨a, ha⟩ := h w
  rw [ha] at he
  cases he

theorem pure (a : α) : FailsWith P (pure a : Agent α) := of_ok fun _ => ⟨a, rfl⟩

theorem throw {e : Fault} (he : P e) : FailsWith P (throw e : Agent α) := by
  intro w e' h
  cases h
  exact he

theorem bind {x : Agent α} {f : α → Agent β} (hx : FailsWith P x) (hf : ∀ a, FailsWith P (f a)) :
    FailsWith P (x >>= f) := by
  intro w e he
  rcases hr : x.run w with ⟨e' | a, w'⟩
  · rw [run_bind_error hr] at he
    cases he
    exact hx w _ (by rw [hr])
  · rw [run_bind_ok hr] at he
    exact hf a w' e he

theorem log (l : Level) (m : String) : FailsWith P (log l m) :=
  of_ok fun w => ⟨(), by rw [run_log]⟩

theorem query (q : FileTree → Location → α) : FailsWith P (query q) :=
  of_ok fun w => ⟨_, by rw [run_query]⟩

theorem attempt (f : FileTree → Location → Except IoError FileTree) : FailsWith P (attempt f) :=
  of_ok fun w => by
    rw [run_attempt]
    split
    · exact ⟨_, rfl⟩
    · exact ⟨_, rfl⟩

theorem orIo (hio : ∀ e, P (.io e)) (r : Except IoError α) : FailsWith P (orIo r) := by
  cases r
  · exact throw (hio _)
  · exact pure _

theorem change (hio : ∀ e, P (.io e)) (f : FileTree → Location → Except IoError FileTree) :
    FailsWith P (change f) :=
  bind (attempt f) fun r => orIo hio r

theorem random64 : FailsWith P random64 := of_ok fun w => ⟨_, by rw [run_random64]⟩

theorem random128 : FailsWith P random128 := bind random64 fun _ => bind random64 fun _ => pure _

theorem cwd : FailsWith P cwd := of_ok fun w => ⟨_, by rw [run_cwd]⟩

theorem syncOpened (path : String) : FailsWith P (syncOpened path) := of_ok fun w => by
  obtain ⟨r, hr⟩ := run_syncOpened path w
  exact ⟨r, by rw [hr]⟩

theorem writeOpened (path : String) (data : ByteArray) : FailsWith P (writeOpened path data) :=
  of_ok fun w => by
    rcases run_writeOpened path data w with ⟨e, hr⟩ | ⟨-, hr⟩ | hr
    · exact ⟨_, by rw [hr]⟩
    · exact ⟨_, by rw [hr]⟩
    · rw [hr, run_attempt]
      split
      · exact ⟨_, rfl⟩
      · exact ⟨_, rfl⟩

/-- A loop over a list fails only as its passes do. -/
theorem forIn {β σ : Type} (l : List β) (init : σ) {f : β → σ → Agent (ForInStep σ)}
    (hf : ∀ b s, FailsWith P (f b s)) : FailsWith P (forIn l init f) := by
  induction l generalizing init with
  | nil => exact pure _
  | cons b l ih =>
    rw [List.forIn_cons]
    refine bind (hf b init) fun step => ?_
    cases step with
    | done s => exact pure _
    | yield s => exact ih s

end FailsWith

end Agent

namespace Store.StateStore

open Agent

variable (s : StateStore)

theorem removeIfExists_failsLocal (path : String) : FailsWith Fault.Local (removeIfExists path) := by
  unfold removeIfExists
  refine FailsWith.bind (FailsWith.attempt _) fun r => ?_
  split
  · exact FailsWith.pure _
  · exact FailsWith.pure _
  · exact FailsWith.throw trivial

theorem tempName_failsLocal : FailsWith Fault.Local tempName :=
  FailsWith.bind FailsWith.random64 fun _ => FailsWith.pure _

theorem createTemp_failsLocal (tries : Nat) : FailsWith Fault.Local (s.createTemp tries) := by
  induction tries with
  | zero => exact FailsWith.throw trivial
  | succ tries ih =>
    rw [createTemp]
    refine FailsWith.bind tempName_failsLocal fun _ => FailsWith.bind (FailsWith.attempt _) fun r => ?_
    split
    · exact FailsWith.pure _
    · exact ih
    · exact FailsWith.bind FailsWith.cwd fun _ => FailsWith.throw trivial

theorem onTemp_failsLocal (tmp : String) {step : Agent (Except IoError Unit)}
    (hstep : FailsWith Fault.Local step) {report : IoError → Fault}
    (hreport : ∀ e, Fault.Local (report e)) : FailsWith Fault.Local (onTemp tmp step report) := by
  unfold onTemp
  refine FailsWith.bind hstep fun r => ?_
  split
  · exact FailsWith.pure _
  · exact FailsWith.bind (FailsWith.attempt _) fun _ => FailsWith.throw (hreport _)

theorem writeAtomic_failsLocal (path : String) (bytes : ByteArray) :
    FailsWith Fault.Local (s.writeAtomic path bytes) := by
  have hio : ∀ e, Fault.Local (.io e) := fun _ => trivial
  unfold writeAtomic
  exact FailsWith.bind (FailsWith.change hio _) fun _ =>
    FailsWith.bind (s.createTemp_failsLocal _) fun tmp => FailsWith.bind FailsWith.cwd fun _ =>
    FailsWith.bind (onTemp_failsLocal tmp (FailsWith.writeOpened _ _) fun _ => trivial) fun _ =>
    FailsWith.bind (onTemp_failsLocal tmp (FailsWith.syncOpened _) hio) fun _ =>
    FailsWith.bind (onTemp_failsLocal tmp (FailsWith.attempt _) hio) fun _ =>
    onTemp_failsLocal tmp (FailsWith.attempt _) fun _ => trivial

theorem writeRecord_failsLocal (r : Record) (bytes : ByteArray) :
    FailsWith Fault.Local (s.writeRecord r bytes) :=
  FailsWith.bind (s.writeAtomic_failsLocal _ _) fun _ => FailsWith.log _ _

theorem readRecord_failsLocal (r : Record) : FailsWith Fault.Local (s.readRecord r) := by
  unfold readRecord
  refine FailsWith.bind (FailsWith.query _) fun res => ?_
  split
  · exact FailsWith.pure _
  · exact FailsWith.pure _
  · exact FailsWith.throw trivial

end Store.StateStore

namespace Store.MachineIdentity

open Agent

variable (s : StateStore)

/-- **Resolving the machine identifier fails only with a fault of the host.** -/
theorem resolve_failsLocal (regenerate : Bool) : FailsWith Fault.Local (resolve s regenerate) := by
  have hnew : FailsWith Fault.Local (do
      let identity ← generate
      s.writeRecord Record.machineId identity.text.toUTF8
      info ("Generated new machine id " ++ identity.text)
      pure identity) :=
    FailsWith.bind (FailsWith.bind FailsWith.random128 fun _ => FailsWith.pure _) fun _ =>
      FailsWith.bind (s.writeRecord_failsLocal _ _) fun _ => FailsWith.bind (FailsWith.log _ _) fun _ =>
      FailsWith.pure _
  unfold resolve
  dsimp only
  split
  · exact FailsWith.bind (StateStore.removeIfExists_failsLocal _) fun _ => hnew
  · refine FailsWith.bind ?_ fun r => ?_
    · unfold load
      refine FailsWith.bind (s.readRecord_failsLocal _) fun res => ?_
      split
      · exact FailsWith.pure _
      · exact FailsWith.pure _
    · split
      · exact FailsWith.bind (FailsWith.log _ _) fun _ => FailsWith.pure _
      · exact hnew

end Store.MachineIdentity

end HostAgent
