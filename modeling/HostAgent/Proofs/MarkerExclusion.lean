import HostAgent.Proofs.RunInvariants

/-!
# `Proofs.MarkerExclusion` — the two registration markers are never both present

`writeMarker` keeps the registration markers apart by its order alone: it deletes the marker
the written one excludes, then writes atomically. `Exclusive` is the invariant: the state
directory is sound and the two markers are not both present. Every operation on the state
directory keeps it, however it ends: the writes because of that order, the deletions and the
record writes because they let no marker appear, and whole runs because everything they do is
one of these, a quiet step, or a call that only changes the remote service.

The main statement, `markers_never_both_present`: from a sound state directory named without
`..` where the markers are not both regular files, after any sequence of operations and runs
(whose collectors leave the directory alone) they are still not both regular files, so reading
the registration state changes nothing and warns about nothing. Without the name condition
the statement fails (`marker_pair_through_missing_dir`): through `n/..`, with `n` missing, the
markers are not files, yet writing one creates `n` and the path then reaches the other.
-/

namespace HostAgent

open HostAgent.Host HostAgent.Store HostAgent.Remote HostAgent.Config HostAgent.Collection
open Agent Store.StateStore

namespace Store.StateStore

variable {s : StateStore} {w w' : World} {α : Type}

/-- The state directory is sound and the registration markers are not both present. -/
def Exclusive (s : StateStore) (w : World) : Prop :=
  s.Sound w.files w.cwd ∧ ¬ (s.Present w .registered ∧ s.Present w .unregistered)

theorem StoreStep.exclusive {A : Marker → Prop} (h : s.StoreStep A w w')
    (hA : ∀ m, m.IsRegistration → ¬ A m) (hx : s.Exclusive w) : s.Exclusive w' := by
  obtain ⟨hsound, hnot⟩ := hx
  refine ⟨h.sound hsound, fun ⟨hr, hu⟩ => hnot ⟨?_, ?_⟩⟩
  · exact h.present hsound rfl (hA _ rfl) hr
  · exact h.present hsound rfl (hA _ rfl) hu

/-- A registration marker that is absent keeps the pair apart. -/
theorem Absent.exclusive {m : Marker} (h : s.Absent m w) (hm : m.IsRegistration) :
    s.Exclusive w := by
  cases m with
  | registered => exact ⟨h.1, fun hboth => h.2 hboth.1⟩
  | unregistered => exact ⟨h.1, fun hboth => h.2 hboth.2⟩
  | lastUpload => cases hm

theorem keeps_exclusive_of_within {A : Marker → Prop} {act : Agent α}
    (h : Within (s.StoreStep A) act) (hA : ∀ m, m.IsRegistration → ¬ A m) :
    Keeps s.Exclusive act :=
  h.keeps fun _ _ hstep => hstep.exclusive hA

/-- A step that keeps the files and the working directory keeps exclusion, whatever it does to
the remote service. -/
theorem keeps_exclusive_of_files {act : Agent α}
    (h : ∀ w, (act.run w).2.files = w.files ∧ (act.run w).2.cwd = w.cwd) :
    Keeps s.Exclusive act := by
  refine Triple.of_world fun w hx => ?_
  obtain ⟨hfiles, hcwd⟩ := h w
  unfold Exclusive Present at *
  rw [hfiles, hcwd]
  exact hx

/-- **Writing any marker keeps exclusion**: a registration marker deletes the one it excludes
first, and the last confirmed upload is no registration marker. -/
theorem writeMarker_exclusive (hs : s.Plain) (m : Marker) : Keeps s.Exclusive (s.writeMarker m) := by
  rcases hex : m.exclusiveWith with _ | other
  · refine keeps_exclusive_of_within (writeMarker_within hs m) fun m' hm' heq => ?_
    subst heq
    simp [Marker.IsRegistration, hex] at hm'
  · have hreg := Marker.isRegistration_of_exclusiveWith hex
    exact (writeMarker_excludes hs hex).mono (fun _ hx => hx.1) (fun _ _ habs => habs.exclusive hreg)
      fun _ habs => habs.exclusive hreg

end Store.StateStore

section Quiet

variable {s : StateStore} {w w' : World} {α : Type}

/-- A quiet step keeps exclusion: it is a store step once the service is put back. -/
theorem Quiet.exclusive (h : Quiet s w w') (hx : s.Exclusive w) : s.Exclusive w' := by
  have hstep : s.StoreStep (fun _ => False) w { w' with service := w.service } :=
    ⟨h.cwd_eq, rfl, h.markers⟩
  exact hstep.exclusive (fun _ _ => id) hx

theorem keeps_exclusive_of_quiet {act : Agent α} (h : Within (Quiet s) act) :
    Keeps s.Exclusive act :=
  h.keeps fun _ _ hstep => hstep.exclusive

end Quiet

/-! ## The registrar -/

section Registrar

variable {s : StateStore}

theorem keeps_exclusive_log (l : Level) (msg : String) : Keeps s.Exclusive (log l msg) :=
  keeps_exclusive_of_within (within_log l msg) fun _ _ => id

/-- Registering and unregistering with the scripted service change only the service. -/
theorem Remote.register_exclusive : Keeps s.Exclusive Service.scripted.register :=
  keeps_exclusive_of_files fun w => by
    show (ScriptedService.register.run w).2.files = _ ∧ (ScriptedService.register.run w).2.cwd = _
    rw [ScriptedService.register_run]
    exact ⟨rfl, rfl⟩

theorem Remote.unregister_exclusive : Keeps s.Exclusive Service.scripted.unregister :=
  keeps_exclusive_of_files fun w => by
    show (ScriptedService.unregister.run w).2.files = _ ∧ (ScriptedService.unregister.run w).2.cwd = _
    rw [ScriptedService.unregister_run]
    exact ⟨rfl, rfl⟩

/-- Local clean-up writes the unregistered marker, then does housekeeping that lets no marker
appear. -/
theorem LocalCleanup.run_exclusive (c : LocalCleanup) (hs : c.store.Plain) (removeSchedule : Bool) :
    Keeps c.store.Exclusive (c.run removeSchedule) := by
  obtain ⟨hsched, hcache⟩ := c.housekeeping_within (s := c.store)
  have hclear := keeps_exclusive_of_within hcache fun _ _ => id
  unfold LocalCleanup.run
  refine Keeps.bind (writeMarker_exclusive hs _) fun _ => ?_
  dsimp only
  split
  · exact Keeps.bind (keeps_exclusive_of_within hsched fun _ _ => id) fun _ =>
      Keeps.bind hclear fun _ => Keeps.pure _
  · exact Keeps.bind hclear fun _ => Keeps.pure _

variable (r : Registrar)

/-- Bringing the markers in line with the service writes at most one marker. -/
theorem Registrar.reconcile_exclusive (hs : r.store.Plain) (registered : Bool) :
    Keeps r.store.Exclusive (r.reconcile registered) := by
  unfold reconcile
  refine Keeps.bind (keeps_exclusive_of_within registrationState_within fun _ _ => id) fun st => ?_
  split
  · exact Keeps.pure _
  · exact Keeps.pure _
  · exact Keeps.bind (keeps_exclusive_log _ _) fun _ => writeMarker_exclusive hs _
  · exact Keeps.bind (keeps_exclusive_log _ _) fun _ => writeMarker_exclusive hs _
  · exact Keeps.pure _

theorem Registrar.ensureLegacy_exclusive (hs : r.store.Plain) (hr : r.remote = .scripted)
    (req : RegistrationRequest) : Keeps r.store.Exclusive (r.ensureLegacy req) := by
  have hlog : ∀ l msg, Keeps r.store.Exclusive (log l msg) := keeps_exclusive_log
  have hcheck : Keeps r.store.Exclusive r.remote.checkRegistration := by
    rw [hr]
    exact keeps_exclusive_of_quiet Remote.checkRegistration_quiet
  have hregister : Keeps r.store.Exclusive r.remote.register := by
    rw [hr]
    exact Remote.register_exclusive
  unfold ensureLegacy
  refine Keeps.bind (hlog _ _) fun _ => ?_
  dsimp only
  split
  on_goal 1 =>
    refine Keeps.bind (keeps_exclusive_of_within clearRegistration_within fun _ _ => id) fun _ =>
      Keeps.bind (hlog _ _) fun _ => ?_
  -- with the markers cleared or not: the identifier, the service's answer, then the markers
  all_goals
    refine Keeps.bind (keeps_exclusive_of_within (MachineIdentity.resolve_within hs _)
      fun _ _ => id) fun identity => Keeps.bind (hlog _ _) fun _ => Keeps.bind hcheck
      fun registered => Keeps.bind (r.reconcile_exclusive hs _) fun _ => ?_
    split
    · split
      · exact Keeps.bind (hlog _ _) fun _ => Keeps.pure _
      · exact Keeps.pure _
    · split
      · exact Keeps.bind (hlog _ _) fun _ => Keeps.pure _
      · exact Keeps.bind (keeps_exclusive_of_within (within_of_logOnly (resolveCredentials_logOnly _))
          fun _ _ => id) fun _ => Keeps.bind hregister fun _ => Keeps.bind (writeMarker_exclusive hs _)
          fun _ => Keeps.bind (hlog _ _) fun _ => Keeps.pure _

theorem Registrar.unregisterLegacy_exclusive (hs : r.store.Plain) (hr : r.remote = .scripted)
    (hc : r.cleanup.store = r.store) (force : Bool) :
    Keeps r.store.Exclusive (r.unregisterLegacy force) := by
  have hlog : ∀ l msg, Keeps r.store.Exclusive (log l msg) := keeps_exclusive_log
  have hcheck : Keeps r.store.Exclusive r.remote.checkRegistration := by
    rw [hr]
    exact keeps_exclusive_of_quiet Remote.checkRegistration_quiet
  have hunregister : Keeps r.store.Exclusive r.remote.unregister := by
    rw [hr]
    exact Remote.unregister_exclusive
  have hclean : ∀ b, Keeps r.store.Exclusive (r.cleanup.run b) := by
    rw [← hc]
    exact r.cleanup.run_exclusive (hc ▸ hs)
  unfold unregisterLegacy
  refine Keeps.bind hcheck.capture fun res => ?_
  dsimp only
  split
  · refine Keeps.bind (Keeps.pure _) fun registered => ?_
    split
    on_goal 1 => refine Keeps.bind hunregister fun unregistered => ?_
    on_goal 2 => refine Keeps.bind (hlog _ _) fun _ => Keeps.bind (Keeps.pure _) fun unregistered => ?_
    -- clean up when unregistered, else report the failure
    all_goals
      split
      · exact Keeps.bind (hclean _) fun _ => Keeps.bind (hlog _ _) fun _ => Keeps.pure _
      · exact Keeps.bind (hlog _ _) fun _ => Keeps.pure _
  · split
    · exact Keeps.throw_bind _ _
    · exact Keeps.bind (hlog _ _) fun _ => Keeps.bind (hclean _) fun _ =>
        Keeps.bind (hlog _ _) fun _ => Keeps.pure _

theorem Registrar.unregisterModern_exclusive (hs : r.store.Plain) (hr : r.remote = .scripted)
    (hc : r.cleanup.store = r.store) (force : Bool) :
    Keeps r.store.Exclusive (r.unregisterModern force) := by
  have hlog : ∀ l msg, Keeps r.store.Exclusive (log l msg) := keeps_exclusive_log
  have hunregister : Keeps r.store.Exclusive r.remote.unregister := by
    rw [hr]
    exact Remote.unregister_exclusive
  have hclean : ∀ b, Keeps r.store.Exclusive (r.cleanup.run b) := by
    rw [← hc]
    exact r.cleanup.run_exclusive (hc ▸ hs)
  unfold unregisterModern
  refine Keeps.bind hunregister.capture fun res => ?_
  dsimp only
  split
  on_goal 2 =>
    split
    on_goal 1 => exact Keeps.throw_bind _ _
    refine Keeps.bind (hlog _ _) fun _ => Keeps.bind (Keeps.pure _) fun unregistered => ?_
  on_goal 1 => refine Keeps.bind (Keeps.pure _) fun unregistered => ?_
  -- clean up when unregistered or forced, then report
  all_goals
    split
    on_goal 1 => refine Keeps.bind (hclean _) fun _ => ?_
    all_goals
      split
      · exact Keeps.bind (hlog _ _) fun _ => Keeps.pure _
      · split
        · exact Keeps.bind (hlog _ _) fun _ => Keeps.pure _
        · exact Keeps.bind (hlog _ _) fun _ => Keeps.pure _

end Registrar

/-! ## Every operation, and any sequence of them -/

section Operations

variable {s : StateStore}

namespace Store.StateStore

/-- Under a sound state directory, exclusion is what `registrationState` reads off the tree: the
two markers are not both regular files. -/
theorem exclusive_iff_isFile (hs : s.Plain) {w : World} (hsound : s.Sound w.files w.cwd) :
    s.Exclusive w ↔ ¬ (w.files.isFile w.cwd (s.markerPath .registered) = true ∧
      w.files.isFile w.cwd (s.markerPath .unregistered) = true) := by
  rw [isFile_markerPath_iff (m := .registered) hs hsound rfl,
    isFile_markerPath_iff (m := .unregistered) hs hsound rfl]
  exact ⟨fun h => h.2, fun h => ⟨hsound, h⟩⟩

theorem Watched.ne_nil {cwd l : Location} (h : s.Watched cwd l) : l ≠ [] := by
  rcases h with hpath | ⟨m, -, rfl⟩
  · exact FileTree.onPath_ne_nil hpath
  · exact fileLoc_ne_nil s cwd _

/-- A state directory with nothing bound on its path or at its markers is sound. -/
theorem sound_of_unbound {t : FileTree} {cwd : Location}
    (h : ∀ l, s.Watched cwd l → t.lookup l = none) : s.Sound t cwd where
  pathLinkFree l hl target := by simp [h l (.inl hl)]
  markerNotLink m hm target := by simp [h _ (.inr ⟨m, hm, rfl⟩)]
  chainOfMarker m hm := by
    rintro ⟨data, mode, hfile⟩
    rw [h _ (.inr ⟨m, hm, rfl⟩)] at hfile
    cases hfile

end Store.StateStore

theorem Registrar.ensureRegistered_exclusive (r : Registrar) (hs : r.store.Plain)
    (hr : r.remote = .scripted) (req : RegistrationRequest) :
    Keeps r.store.Exclusive (r.ensureRegistered req) := by
  unfold Registrar.ensureRegistered
  split
  · exact r.ensureLegacy_exclusive hs hr req
  · exact Keeps.bind (keeps_exclusive_log _ _) fun _ => Keeps.pure _

theorem Registrar.unregister_exclusive (r : Registrar) (hs : r.store.Plain)
    (hr : r.remote = .scripted) (hc : r.cleanup.store = r.store) (force : Bool) :
    Keeps r.store.Exclusive (r.unregister force) := by
  unfold Registrar.unregister
  split
  · exact r.unregisterLegacy_exclusive hs hr hc force
  · exact r.unregisterModern_exclusive hs hr hc force

/-- **Every operation on a plain state directory keeps exclusion**, runs included when their
collectors leave the directory alone. -/
theorem StoreOp.act_exclusive (hs : s.Plain) (op : StoreOp)
    (hcol : ∀ i, op = .run i → i.collector.LeavesStore s) : Keeps s.Exclusive (op.act s) := by
  have hnone : ∀ m : Marker, m.IsRegistration → ¬ False := fun _ _ => id
  cases op with
  | writeMarker m => exact writeMarker_exclusive hs m
  | deleteMarker m => exact keeps_exclusive_of_within (deleteMarker_within m) hnone
  | markRegistered => exact writeMarker_exclusive hs .registered
  | markUnregistered => exact writeMarker_exclusive hs .unregistered
  | clearRegistration => exact keeps_exclusive_of_within clearRegistration_within hnone
  | writeRecord r bytes => exact keeps_exclusive_of_within (writeRecord_within hs r bytes) hnone
  | deleteRecord r => exact keeps_exclusive_of_within (deleteRecord_within r) hnone
  | run i =>
    refine StoreOp.run_keeps s i (fun _ _ h hx => h.exclusive hx) (fun r hr hst hc => ?_) hs
      (hcol i rfl)
    subst hst
    exact ⟨r.unregister_exclusive hs hr hc _, r.ensureRegistered_exclusive hs hr⟩

/-- **The registration markers are never both present.** From a state directory named without
`..`, whose path passes no link and whose markers are no links, where the two markers are not
both regular files, any sequence of store operations and runs leaves them not both regular
files, and reading the registration state then changes nothing: it never warns about both. -/
theorem markers_never_both_present (hs : s.Plain) (ops : List StoreOp)
    (hcol : ∀ i, StoreOp.run i ∈ ops → i.collector.LeavesStore s) (w : World)
    (hsound : s.Sound w.files w.cwd)
    (hnot : ¬ (w.files.isFile w.cwd (s.markerPath .registered) = true ∧
      w.files.isFile w.cwd (s.markerPath .unregistered) = true)) :
    let w' := runOps s ops w
    ¬ (w'.files.isFile w'.cwd (s.markerPath .registered) = true ∧
      w'.files.isFile w'.cwd (s.markerPath .unregistered) = true) ∧
    s.registrationState.run w' = (.ok (stateOf (w'.files.isFile w'.cwd (s.markerPath .registered))
      (w'.files.isFile w'.cwd (s.markerPath .unregistered))), w') := by
  intro w'
  have hex : s.Exclusive w' :=
    runOps_keeps s ops (fun op hop => StoreOp.act_exclusive hs op fun i h => hcol i (h ▸ hop)) w
      ((exclusive_iff_isFile hs hsound).mpr hnot)
  have hboth := (exclusive_iff_isFile hs hex.1).mp hex
  exact ⟨hboth, registrationState_run w' hboth⟩

/-- The main statement at a fresh relative state directory, through both markers and a run. -/
theorem markers_never_both_present_fresh :
    let s : StateStore := ⟨"state"⟩
    let ops := [StoreOp.markRegistered, .markUnregistered,
      .run { config := { unregister := true }, collector := .canned { archive := "a" }
             sleeper := .recording, scheduler := .cron "cron" }]
    s.Plain ∧ s.Sound ({} : World).files ({} : World).cwd ∧
    ¬ ((({} : World).files.isFile [] (s.markerPath .registered) = true ∧
      ({} : World).files.isFile [] (s.markerPath .unregistered) = true)) ∧
    ¬ ((runOps s ops {}).files.isFile (runOps s ops {}).cwd (s.markerPath .registered) = true ∧
      (runOps s ops {}).files.isFile (runOps s ops {}).cwd (s.markerPath .unregistered) = true) := by
  intro s ops
  have hs : s.Plain := by
    unfold StateStore.Plain
    decide
  have hsound : s.Sound ({} : World).files ({} : World).cwd :=
    sound_of_unbound fun l hl => by simp [FileTree.lookup_of_ne_nil _ hl.ne_nil]
  have hnot : ¬ ((({} : World).files.isFile [] (s.markerPath .registered) = true ∧
      ({} : World).files.isFile [] (s.markerPath .unregistered) = true)) := by decide +kernel
  have hcol : ∀ i, StoreOp.run i ∈ ops → i.collector.LeavesStore s := by
    intro i hi
    simp only [ops, List.mem_cons, reduceCtorEq, false_or, List.mem_nil_iff, or_false] at hi
    cases hi
    exact Collector.canned_leavesStore _ s
  exact ⟨hs, hsound, hnot, (markers_never_both_present hs ops hcol {} hsound hnot).1⟩

/-- **Without the name condition the markers can meet.** Through `s/n/..` with `n` missing,
neither marker names anything. An unregistering run against a service that does not know the
host writes the unregistered marker, which creates `n`, and the path of the registered one then
reaches the file `s/.registered` that was there all along. -/
theorem marker_pair_through_missing_dir :
    let s : StateStore := ⟨"s/n/.."⟩
    let w : World := { files := { entries := [(["s"], .dir 0o755),
      (["s", ".registered"], .file "x".toUTF8 0o644)] } }
    let i : Invocation :=
      { config := { unregister := true, baseUrl := "http://x" }
        collector := .canned { archive := "archive.tar.gz" }
        sleeper := .real
        scheduler := .cron "cron.daily/hostwatch" }
    let w' := runOps s [.run i] w
    (w.files.lstat w.cwd (s.markerPath .registered)).isOk = false ∧
    (w.files.lstat w.cwd (s.markerPath .unregistered)).isOk = false ∧
    w'.files.isFile w'.cwd (s.markerPath .registered) = true ∧
    w'.files.isFile w'.cwd (s.markerPath .unregistered) = true := by
  dsimp only
  decide +kernel

end Operations

end HostAgent
