import HostAgent.Proofs.AtomicWrites
import HostAgent.Proofs.PlainTrees
import HostAgent.Proofs.StoreOutcomes
import HostAgent.Proofs.Unregistration

/-!
# What a successful clean-up leaves

Clean-up after unregistering writes the unregistered marker and then, failing open, removes the
schedule entry and empties the cache directory. It reports success once the marker is written,
so the marker has to survive the housekeeping that follows.

It survives when the housekeeping cannot reach it. A removal acts on the entry its path names,
not on what a link there points to, so below a directory whose way is clear (`FileTree.ClearWay`:
no `..`, no link on the way) it acts where the path spells and keeps every other location. The
clean-up's conditions (`LocalCleanup.SparesMarker`) ask this of the schedule entry's directory,
while the entry itself, usually a link, may be anything, and of the cache directory, and that
neither spells the marker's location or a directory above it. Links may stand anywhere else.

In a well-formed world (`World.WellFormed`: plain names, every binding below a directory, a
working directory of plain names) the marker write keeps these conditions: it keeps the names
plain (`writeMarker_plainNames`) and, once finished, has made no link
(`writeMarker_addsNoLink`). Each step of the housekeeping keeps them too, and keeps the marker's
node (`TreeStep`). A successful clean-up then leaves the unregistered marker present and the
registered one absent, and the markers read as `unregistered`
(`LocalCleanup.run_leaves_unregistered`); so does every unregistration that answers `true`, in
either generation.

Where the schedule entry is the marker itself, the housekeeping removes the marker it has just
written, and success is reported all the same (`schedule_entry_at_marker`).
-/

namespace HostAgent

open HostAgent.Host HostAgent.Host.FileTree HostAgent.Host.Path HostAgent.Agent HostAgent.Store
open Store.StateStore

/-- **A well-formed world**: every name bound in its tree is plain, every binding hangs below a
directory, and its working directory is a location of plain names. -/
structure World.WellFormed (w : World) : Prop where
  plain : w.files.PlainNames
  rooted : w.files.Rooted
  cwdPlain : PlainLoc w.cwd

/-- A state directory whose way is a chain of directories, with a file or nothing at each
registration marker, is sound. -/
theorem Store.StateStore.sound_of_dirChain {s : StateStore} {t : FileTree} {cwd : Location}
    (hchain : t.DirChain (s.base cwd) s.names)
    (hmarkers : ∀ m : Marker, m.IsRegistration →
      (t.lookup (s.fileLoc cwd m.fileName)).all Node.isFile = true) : s.Sound t cwd where
  pathLinkFree := hchain.linkFree
  markerNotLink m hm target hlink := by
    have h := hmarkers m hm
    rw [hlink] at h
    cases h
  chainOfMarker _ _ _ := hchain

/-- **A step that keeps a tree invariant**: from working directory `cwd` and a tree where `I`
holds, the working directory stays, `I` still holds, and every location in `K` keeps its node. -/
def TreeStep (I : FileTree → Prop) (cwd : Location) (K : Location → Prop) (w w' : World) :
    Prop :=
  w.cwd = cwd → I w.files →
    w'.cwd = cwd ∧ I w'.files ∧ ∀ l, K l → w'.files.lookup l = w.files.lookup l

namespace TreeStep

variable {I : FileTree → Prop} {cwd : Location} {K : Location → Prop}

theorem refl (w : World) : TreeStep I cwd K w w := fun hc hI => ⟨hc, hI, fun _ _ => rfl⟩

theorem trans {w₁ w₂ w₃ : World} (h₁ : TreeStep I cwd K w₁ w₂)
    (h₂ : TreeStep I cwd K w₂ w₃) : TreeStep I cwd K w₁ w₃ := by
  intro hc hI
  obtain ⟨hc₂, hI₂, hk₂⟩ := h₁ hc hI
  obtain ⟨hc₃, hI₃, hk₃⟩ := h₂ hc₂ hI₂
  exact ⟨hc₃, hI₃, fun l hl => (hk₃ l hl).trans (hk₂ l hl)⟩

instance : Std.Refl (TreeStep I cwd K) := ⟨refl⟩

instance : Trans (TreeStep I cwd K) (TreeStep I cwd K) (TreeStep I cwd K) := ⟨trans⟩

/-- A step that leaves the files and the working directory alone. -/
theorem of_eq {w w' : World} (hf : w'.files = w.files) (hc : w'.cwd = w.cwd) :
    TreeStep I cwd K w w' := by
  intro hcwd hI
  refine ⟨hc.trans hcwd, ?_, fun l _ => by rw [hf]⟩
  rw [hf]
  exact hI

theorem of_logOnly {w w' : World} (h : w.LogOnly w') : TreeStep I cwd K w w' :=
  of_eq h.files_eq h.cwd_eq

/-- What stays in the frame keeps the working directory and the invariant, however it ends. -/
theorem triple {α : Type} {act : Agent α} (h : Within (TreeStep I cwd K) act) :
    Triple (fun w => w.cwd = cwd ∧ I w.files) act (fun _ w => w.cwd = cwd ∧ I w.files)
      (fun _ => True) :=
  Triple.mono (Within.keeps h fun _ _ hstep hw => ⟨(hstep hw.1 hw.2).1, (hstep hw.1 hw.2).2.1⟩)
    (fun _ h => h) (fun _ _ h => h) (fun _ _ => trivial)

end TreeStep

/-! ## The steps -/

section Steps

variable {I : FileTree → Prop} {cwd : Location} {K : Location → Prop}

theorem treeStep_log (l : Level) (msg : String) : Within (TreeStep I cwd K) (log l msg) :=
  (logOnly_log l msg).mono fun _ _ h => TreeStep.of_logOnly h

theorem treeStep_tempName : Within (TreeStep I cwd K) tempName := by
  intro w
  obtain ⟨n, -, hrun⟩ := tempName_run w
  rw [hrun]
  -- reduce the projections first: comparing the drawn entropy with the old one is costly
  dsimp only
  exact TreeStep.of_eq rfl rfl

/-- A change of the tree that keeps `I` and the nodes of `K`. -/
theorem treeStep_change {f : FileTree → Location → Except IoError FileTree}
    (hf : ∀ t t', I t → f t cwd = .ok t' → I t' ∧ ∀ l, K l → t'.lookup l = t.lookup l) :
    Within (TreeStep I cwd K) (change f) := by
  intro w hc hI
  subst hc
  rcases hr : f w.files w.cwd with e | t'
  · rw [run_change_error hr]
    exact ⟨rfl, hI, fun _ _ => rfl⟩
  · rw [run_change_ok hr]
    exact ⟨rfl, hf _ _ hI hr⟩

theorem treeStep_attempt {f : FileTree → Location → Except IoError FileTree}
    (hf : ∀ t t', I t → f t cwd = .ok t' → I t' ∧ ∀ l, K l → t'.lookup l = t.lookup l) :
    Within (TreeStep I cwd K) (attempt f) := by
  intro w hc hI
  subst hc
  rcases hr : f w.files w.cwd with e | t'
  · rw [run_attempt_error hr]
    exact ⟨rfl, hI, fun _ _ => rfl⟩
  · rw [run_attempt_ok hr]
    exact ⟨rfl, hf _ _ hI hr⟩

end Steps

/-! ## What the marker write keeps -/

namespace Store.StateStore

variable {s : StateStore} {cwd : Location}

theorem writeAtomic_plainNames (s : StateStore) (path : String) (bytes : ByteArray)
    (hcwd : PlainLoc cwd) :
    Within (TreeStep PlainNames cwd fun _ => False) (s.writeAtomic path bytes) :=
  s.writeAtomic_within_of
    (treeStep_change fun _ _ ht h => ⟨mkdirAll_plainNames ht hcwd h, fun _ h => h.elim⟩)
    treeStep_tempName
    (fun _ => treeStep_attempt fun _ _ ht h =>
      ⟨createNew_plainNames ht hcwd h, fun _ h => h.elim⟩)
    (fun _ => treeStep_attempt fun _ _ ht h =>
      ⟨writeFile_plainNames ht hcwd h, fun _ h => h.elim⟩)
    (fun _ => treeStep_attempt fun _ _ ht h => ⟨chmod_plainNames ht hcwd h, fun _ h => h.elim⟩)
    (fun _ => treeStep_attempt fun _ _ ht h => ⟨rename_plainNames ht hcwd h, fun _ h => h.elim⟩)
    fun _ => treeStep_attempt fun _ _ ht h => ⟨removeFile_plainNames ht h, fun _ h => h.elim⟩

/-- **A marker write keeps the names plain**, whichever way it ends. -/
theorem writeMarker_plainNames (s : StateStore) (m : Marker) (hcwd : PlainLoc cwd) :
    Within (TreeStep PlainNames cwd fun _ => False) (s.writeMarker m) :=
  s.writeMarker_within_of
    (fun _ _ => removeIfExists_within_of
      (treeStep_attempt fun _ _ ht h => ⟨removeFile_plainNames ht h, fun _ h => h.elim⟩))
    (fun _ => s.writeAtomic_plainNames _ _ hcwd) treeStep_log

/-- What the marker write needs of a tree to make no link beyond those of `t₀`: none yet, every
binding below a directory, and no link on the state directory's way. -/
def WriteReady (s : StateStore) (t₀ : FileTree) (cwd : Location) (t : FileTree) : Prop :=
  t₀.AddsNoLink t ∧ t.Rooted ∧ t.LinkFree (s.base cwd) s.names

/-- Removing a file keeps a tree ready: it unbinds something that is not a directory. -/
theorem removeIfExists_ready (t₀ : FileTree) (path : String) :
    Within (TreeStep (s.WriteReady t₀ cwd) cwd fun _ => False) (removeIfExists path) :=
  removeIfExists_within_of (treeStep_attempt fun t t' ⟨h₀, hr, hfree⟩ h => by
    obtain ⟨loc, n, -, hl, hdir, rfl⟩ := removeFile_eq_ok h
    have hno := addsNoLink_erase t loc
    refine ⟨⟨h₀.trans hno, hr.erase fun m hm => ?_, hno.linkFree hfree⟩,
      fun _ h => h.elim⟩
    rw [hl] at hm
    cases hm
    cases hdir)

/-- **A finished marker write makes no link**, from a tree where every binding hangs below a
directory and the state directory's way has no link: removing the excluded marker unbinds a
file, and the atomic write makes directories and one file. -/
theorem writeMarker_addsNoLink (hs : s.Plain) (m : Marker) (t₀ : FileTree) :
    Triple (fun w => w.cwd = cwd ∧ s.WriteReady t₀ cwd w.files) (s.writeMarker m)
      (fun _ w => w.cwd = cwd ∧ t₀.AddsNoLink w.files) (fun _ => True) := by
  have hwrite : ∀ bytes, Triple (fun w => w.cwd = cwd ∧ s.WriteReady t₀ cwd w.files)
      (s.writeAtomic (s.markerPath m) bytes) (fun _ w => w.cwd = cwd ∧ t₀.AddsNoLink w.files)
      (fun _ => True) := by
    rintro bytes w ⟨rfl, h₀, hr, hfree⟩
    rcases hrun : (s.writeAtomic (s.markerPath m) bytes).run w with ⟨_ | u, w'⟩
    · trivial
    · have hhost := s.writeAtomic_hostOnly (s.markerPath m) bytes w
      rw [hrun] at hhost
      exact ⟨hhost.cwd_eq, h₀.trans (writeAtomic_addsNoLink hs m.plainName hfree hr hrun)⟩
  have hstamp : Triple (fun w => w.cwd = cwd ∧ s.WriteReady t₀ cwd w.files) (do
      let stamp := (← now).rfc3339
      s.writeAtomic (s.markerPath m) stamp.toUTF8
      debug ("Wrote marker " ++ m.fileName)) (fun _ w => w.cwd = cwd ∧ t₀.AddsNoLink w.files)
      (fun _ => True) :=
    Triple.bind (TreeStep.triple (K := fun _ => False) Within.now) fun _ =>
      Triple.bind (hwrite _) fun _ => TreeStep.triple (K := fun _ => False) (treeStep_log _ _)
  -- the excluded marker, when there is one, goes first
  rcases hex : m.exclusiveWith with _ | other
  · simpa only [writeMarker, hex] using hstamp
  · simp only [writeMarker, hex]
    exact Triple.bind (TreeStep.triple (removeIfExists_ready t₀ _)) fun _ => hstamp

end Store.StateStore

/-! ## The housekeeping keeps what it cannot reach -/

/-- A location one name below `l` lies at or above a file of directory `d` only when `l` lies
at or above `d`. -/
theorem not_prefix_concat {l d : Location} (h : ¬ l <+: d) (n x : String) :
    ¬ l ++ [n] <+: d ++ [x] := by
  intro hp
  rcases List.prefix_concat_iff.1 hp with heq | hp
  · exact h (by rw [(List.append_inj' heq rfl).1])
  · exact h ((List.prefix_append l [n]).trans hp)

/-- The markers of `w` say the host is unregistered: the unregistered marker is present, the
registered one absent, and they read as `unregistered`. -/
def Store.StateStore.LeftUnregistered (s : StateStore) (w : World) : Prop :=
  s.Present w .unregistered ∧ s.Absent .registered w ∧ s.stateIn w = .unregistered

theorem Store.StateStore.LeftUnregistered.of_logOnly {s : StateStore} {w w' : World} (h : w.LogOnly w')
    (hleft : s.LeftUnregistered w) : s.LeftUnregistered w' :=
  ⟨Present.of_logOnly h hleft.1, Absent.of_logOnly h hleft.2.1,
    (stateIn_of_logOnly h).trans hleft.2.2⟩

namespace LocalCleanup

/-- **Where clean-up cannot reach the unregistered marker**, in tree `t` from `cwd`. The schedule
entry is a plain name `n` in a directory `d` whose way is clear, and it is not the marker; the
entry itself may be a link, since removing it acts on the entry. The cache directory's way is
clear too, and the cache directory is neither the state directory nor a directory above it. -/
structure SparesMarker (c : LocalCleanup) (t : FileTree) (cwd : Location) : Prop where
  schedule : ∀ p, c.scheduler = .cron p → ∃ d n, p = Path.join d n ∧ PlainName n ∧
    t.ClearWay cwd d ∧ spelled cwd d ++ [n] ≠ c.store.fileLoc cwd Marker.unregistered.fileName
  cache : t.ClearWay cwd c.cache.path
  cacheOff : ¬ spelled cwd c.cache.path <+: c.store.base cwd ++ c.store.names

variable {c : LocalCleanup} {t t' : FileTree} {cwd : Location}

theorem SparesMarker.of_addsNoLink (h : c.SparesMarker t cwd) (ht : t.AddsNoLink t') :
    c.SparesMarker t' cwd where
  schedule p hp := by
    obtain ⟨d, n, hp', hn, hway, hne⟩ := h.schedule p hp
    exact ⟨d, n, hp', hn, hway.of_addsNoLink ht, hne⟩
  cache := h.cache.of_addsNoLink ht
  cacheOff := h.cacheOff

/-- What the housekeeping keeps: plain names, and the marker out of its reach. -/
def Tidy (c : LocalCleanup) (cwd : Location) (t : FileTree) : Prop :=
  t.PlainNames ∧ c.SparesMarker t cwd

theorem Tidy.of_removeFile (h : c.Tidy cwd t) {cwd' : Location} {path : String}
    (hc : t.removeFile cwd' path = .ok t') : c.Tidy cwd t' :=
  ⟨removeFile_plainNames h.1 hc, h.2.of_addsNoLink (addsNoLink_removeFile hc)⟩

theorem Tidy.of_removeDirAll (h : c.Tidy cwd t) {cwd' : Location} {path : String}
    (hc : t.removeDirAll cwd' path = .ok t') : c.Tidy cwd t' :=
  ⟨removeDirAll_plainNames h.1 hc, h.2.of_addsNoLink (addsNoLink_removeDirAll hc)⟩

variable (c) (cwd)

/-- **Removing the schedule entry keeps the marker's node**: the entry is removed where its path
spells, and that is not the marker. -/
theorem removeScheduling_treeStep :
    Within (TreeStep (c.Tidy cwd) cwd (· = c.store.fileLoc cwd Marker.unregistered.fileName))
      c.scheduler.removeScheduling := by
  refine c.scheduler.removeScheduling_within_of treeStep_log (fun path hp => ?_)
    (Within.modify fun _ => TreeStep.of_eq rfl rfl)
  refine treeStep_attempt fun t t' htidy h => ⟨htidy.of_removeFile h, ?_⟩
  obtain ⟨d, n, rfl, hn, hway, hne⟩ := htidy.2.schedule path hp
  rintro l rfl
  exact hway.removeFile_keeps hn (c.store.fileLoc_ne_nil _ _) hne h

/-- Removing named entries of the cache directory keeps the marker's node: each lies one name
below the cache directory, which is neither the state directory nor above it. -/
theorem removeEach_treeStep :
    ∀ (names : List String) (k : Nat), (∀ n ∈ names, PlainName n) →
      Within (TreeStep (c.Tidy cwd) cwd (· = c.store.fileLoc cwd Marker.unregistered.fileName))
        (c.cache.removeEach names k)
  | [], _, _ => Within.pure _
  | name :: rest, k, hnames => by
    have hname := hnames name List.mem_cons_self
    have hrest := removeEach_treeStep rest (k + 1) fun n hn => hnames n (List.mem_cons_of_mem _ hn)
    have hm := c.store.fileLoc_ne_nil cwd Marker.unregistered.fileName
    unfold Store.CacheDir.removeEach
    refine Within.bind (Within.query _) fun _ => ?_
    dsimp only
    split
    · refine Within.bind (treeStep_change fun t t' htidy h => ⟨htidy.of_removeDirAll h, ?_⟩)
        fun _ => Within.bind (treeStep_log _ _) fun _ => hrest
      rintro l rfl
      exact htidy.2.cache.removeDirAll_keeps hname hm (not_prefix_concat htidy.2.cacheOff _ _) h
    · refine Within.bind (treeStep_change fun t t' htidy h => ⟨htidy.of_removeFile h, ?_⟩)
        fun _ => Within.bind (treeStep_log _ _) fun _ => hrest
      rintro l rfl
      refine htidy.2.cache.removeFile_keeps hname hm (fun heq => ?_) h
      refine not_prefix_concat htidy.2.cacheOff name Marker.unregistered.fileName ?_
      rw [heq]
      exact List.prefix_refl _

/-- **Emptying the cache directory keeps the marker's node**: the entries a tree of plain names
lists have plain names. -/
theorem clear_treeStep :
    Within (TreeStep (c.Tidy cwd) cwd (· = c.store.fileLoc cwd Marker.unregistered.fileName))
      c.cache.clear := by
  intro w
  unfold Store.CacheDir.clear
  rw [run_bind_ok (run_query _ w)]
  dsimp only
  split
  · rename_i names hread
    intro hc htidy
    rw [pure_bind]
    exact (Within.bind (c.removeEach_treeStep cwd names 0 (readDir_plain htidy.1 hread)) fun _ => by
      split
      · exact Within.bind (treeStep_log _ _) fun _ => Within.pure _
      · exact Within.pure _) w hc htidy
  · exact TreeStep.refl w
  · rw [run_bind_error (run_throw _ w)]
    exact TreeStep.refl w

/-- The housekeeping after the marker write keeps the marker's node and the marker out of
reach. -/
theorem housekept_treeStep (b : Bool) (w : World) :
    TreeStep (c.Tidy cwd) cwd (· = c.store.fileLoc cwd Marker.unregistered.fileName) w
      (c.housekept b w) := by
  have hsched := failOpen_within "remove_scheduling" (fun _ => treeStep_log _ _)
    (c.removeScheduling_treeStep cwd)
  have hclear := failOpen_within "delete_cache_files" (fun _ => treeStep_log _ _)
    (c.clear_treeStep cwd)
  unfold housekept
  cases b with
  | false => exact hclear w
  | true => exact (hsched w).trans (hclear _)

variable {c} {cwd}

/-- The housekeeping lets no registration marker appear. -/
theorem housekept_storeStep (c : LocalCleanup) (b : Bool) (w : World) :
    c.store.StoreStep (fun _ => False) w (c.housekept b w) := by
  have hhouse := c.housekeeping_within (s := c.store)
  unfold housekept
  cases b with
  | false => exact hhouse.2 w
  | true => exact (hhouse.1 w).trans (hhouse.2 _)

/-- **A successful clean-up leaves the host unregistered**: the unregistered marker present, the
registered one absent, and the markers read as `unregistered`. This holds in a well-formed world
with a sound state directory named without `..`, when the housekeeping cannot reach the
marker. -/
theorem run_leaves_unregistered (hs : c.store.Plain) (b : Bool) {w w' : World}
    (h : (c.run b).run w = (.ok (), w')) (hwf : w.WellFormed) (hsp : c.SparesMarker w.files w.cwd)
    (hsound : c.store.Sound w.files w.cwd) : c.store.LeftUnregistered w' := by
  rw [run_run] at h
  rcases hm : c.store.markUnregistered.run w with ⟨e | u, w₁⟩ <;> rw [hm] at h
  · simp only [Prod.mk.injEq, reduceCtorEq, false_and] at h
  simp only [Prod.mk.injEq] at h
  obtain ⟨-, rfl⟩ := h
  -- the marker write: the marker present and the other absent
  have hmark : c.store.writeMarker .unregistered = c.store.markUnregistered := rfl
  have hwrite := writeMarker_state hs (m := .unregistered) rfl w hsound
  rw [hmark, hm] at hwrite
  obtain ⟨hp₁, ha₁⟩ := hwrite
  -- it keeps the names plain and makes no link, so the marker stays out of reach
  have hplain := c.store.writeMarker_plainNames .unregistered hwf.cwdPlain w rfl hwf.plain
  have hlinks := c.store.writeMarker_addsNoLink hs .unregistered w.files w
    ⟨rfl, .refl _, hwf.rooted, hsound.pathLinkFree⟩
  rw [hmark, hm] at hplain hlinks
  obtain ⟨hc₁, hplain₁, -⟩ := hplain
  obtain ⟨-, hno₁⟩ := hlinks
  -- the housekeeping: the marker's node stays, and no registration marker appears
  obtain ⟨hc', -, hkeep⟩ :=
    c.housekept_treeStep w.cwd b w₁ hc₁ ⟨hplain₁, hsp.of_addsNoLink hno₁⟩
  have hstore := c.housekept_storeStep b w₁
  have hp : c.store.Present (c.housekept b w₁) .unregistered := by
    obtain ⟨data, md, hfile⟩ := hp₁
    refine ⟨data, md, ?_⟩
    rw [hc', hkeep _ rfl, ← hfile, hc₁]
  have ha : c.store.Absent .registered (c.housekept b w₁) :=
    ⟨hstore.sound ha₁.1, fun hreg => ha₁.2 (hstore.present ha₁.1 rfl id hreg)⟩
  exact ⟨hp, ha, stateIn_unregistered hs hp ha⟩

/-- A clean-up reported as `true` left what a successful clean-up leaves, with lines added to
the journal. -/
theorem Reports.leftUnregistered (hs : c.store.Plain) {b : Bool} {w₂ : World}
    {out : Except Fault Bool × World} (hrep : c.Reports b w₂ out) (hok : out.1 = .ok true)
    (hwf : w₂.WellFormed) (hsp : c.SparesMarker w₂.files w₂.cwd)
    (hsound : c.store.Sound w₂.files w₂.cwd) : c.store.LeftUnregistered out.2 := by
  unfold Reports at hrep
  rcases hm : c.store.markUnregistered.run w₂ with ⟨e | u, w₁⟩ <;> rw [hm] at hrep
  · rw [hrep] at hok
    nomatch hok
  · have hrun : (c.run b).run w₂ = (.ok (), c.housekept b w₁) := by rw [run_run, hm]
    exact (run_leaves_unregistered hs b hrun hwf hsp hsound).of_logOnly hrep.2

end LocalCleanup

/-! ## Unregistrations that answer `true` -/

/-- **An unregistration that answers `true` has cleaned up**, in either generation, from a
world whose files and working directory are those it started with. -/
theorem Registrar.unregister_true_cleaned (r : Registrar) (hr : r.remote = .scripted)
    (force : Bool) (w : World) (h : ((r.unregister force).run w).1 = .ok true) :
    ∃ b w₂, w₂.files = w.files ∧ w₂.cwd = w.cwd ∧
      r.cleanup.Reports b w₂ ((r.unregister force).run w) := by
  -- a clean-up after lines in the journal, from a world whose service alone changed
  have hafter : ∀ {b : Bool} {w₁ w₂ : World}, w₁.LogOnly w₂ → w₁.files = w.files →
      w₁.cwd = w.cwd → r.cleanup.Reports b w₂ ((r.unregister force).run w) →
      ∃ b w₂, w₂.files = w.files ∧ w₂.cwd = w.cwd ∧
        r.cleanup.Reports b w₂ ((r.unregister force).run w) :=
    fun hlog hf hc hrep => ⟨_, _, hlog.files_eq.trans hf, hlog.cwd_eq.trans hc, hrep⟩
  unfold Registrar.unregister at h hafter ⊢
  cases hg : r.generation with
  | legacy =>
    simp only [hg] at h hafter ⊢
    rcases hchk : w.service.registered with f | known
    · cases force with
      | false =>
        rw [r.unregisterLegacy_check_fails w hr hchk] at h
        nomatch h
      | true =>
        obtain ⟨w₂, hlog, hrep⟩ := r.unregisterLegacy_check_forced w hr hchk
        exact hafter hlog rfl rfl hrep
    cases known
    · obtain ⟨w₂, hlog, hrep⟩ := r.unregisterLegacy_unknown force w hr hchk
      exact hafter hlog rfl rfl hrep
    rcases hres : w.service.unregisterResult with f | confirmed
    · rw [r.unregisterLegacy_call_fails force w hr hchk hres] at h
      nomatch h
    cases confirmed
    · rw [(r.unregisterLegacy_refused force w hr hchk hres).1] at h
      nomatch h
    · exact ⟨true, afterUnregisterWorld w, rfl, rfl, r.unregisterLegacy_confirmed force w hr hchk hres⟩
  | modern =>
    simp only [hg] at h hafter ⊢
    by_cases hc : w.service.unregisterResult = .ok true ∨ force = true
    · obtain ⟨w₂, hlog, hrep⟩ := r.unregisterModern_cleans force w hr hc
      exact hafter hlog rfl rfl hrep
    -- neither confirmed nor forced: a refusal or a fault
    obtain ⟨hres, hforce⟩ := not_or.1 hc
    rw [Bool.not_eq_true] at hforce
    subst hforce
    rcases hres' : w.service.unregisterResult with f | confirmed
    · rw [r.unregisterModern_fails w hr hres'] at h
      nomatch h
    cases confirmed
    · rw [(r.unregisterModern_refused w hr hres').1] at h
      nomatch h
    · exact absurd hres' hres

/-- The collection and delivery never answer `unregistered`. -/
theorem Orchestrator.collectAndDeliver_ne_unregistered (o : Orchestrator) :
    Triple (fun _ => True) o.collectAndDeliver (fun a _ => a ≠ .unregistered) (fun _ => True) := by
  have hany : ∀ {β : Type} (act : Agent β), Keeps (fun _ => True) act :=
    fun _ => Triple.of_world fun _ _ => trivial
  unfold Orchestrator.collectAndDeliver
  dsimp only
  refine Triple.bind (hany _) fun rules => Triple.bind (hany _) fun removal => ?_
  split
  on_goal 1 => refine Triple.bind (hany _) fun _ => ?_
  all_goals
    refine Triple.bind (hany _) fun _ => Triple.bind (hany _) fun artifact =>
      Triple.bind (hany _) fun archive => ?_
    split
    · exact Triple.bind (hany _) fun _ => Triple.pure fun _ _ => by simp
    · exact Triple.bind (hany _) fun _ => Triple.pure fun _ _ => by simp

/-- **A run answers `unregistered` only after an unregistration that answered `true`**, from
the world it started in with lines added to the journal, and it ends where that unregistration
ended. -/
theorem Orchestrator.run_unregistered (o : Orchestrator) (w : World) :
    Triple (· = w) o.run
      (fun a w' => a = .unregistered →
        ∃ w₀, w.LogOnly w₀ ∧ (o.registrar.unregister o.config.force).run w₀ = (.ok true, w'))
      (fun _ => True) := by
  rcases hv : o.config.validate with e | ⟨⟩
  · rw [o.run_eq_throw hv]
    exact Triple.throw fun _ _ => trivial
  rw [o.run_eq_runChecked hv]
  unfold Orchestrator.runChecked
  dsimp only
  refine Triple.bind (Q := fun _ w₁ => w.LogOnly w₁) (fun w₁ hw => ?_) fun _ => ?_
  · subst hw
    obtain ⟨w', hrun, hlog⟩ := run_debug _ w₁
    rw [hrun]
    exact hlog
  split
  · -- the unregistration's answer decides the run's
    intro w₁ hlog
    rcases hu : (o.registrar.unregister o.config.force).run w₁ with ⟨e | b, w'⟩
    · rw [run_bind_error hu]
      trivial
    · rw [run_bind_ok hu]
      intro hb
      cases b
      · nomatch hb
      · exact ⟨w₁, hlog, hu⟩
  -- any other run answers something else
  refine Triple.mono (P := fun _ => True) (Q := fun a _ => a ≠ .unregistered) ?_ (fun _ _ => trivial)
    (fun _ _ hne heq => absurd heq hne) (fun _ h => h)
  split
  · exact Triple.throw_bind _ _ fun _ _ => trivial
  split
  · refine Triple.bind (Triple.of_world fun _ _ => trivial) fun decision => ?_
    split
    · exact Triple.pure fun _ _ => by simp
    · exact o.collectAndDeliver_ne_unregistered
  · exact o.collectAndDeliver_ne_unregistered

/-- **An unregistration that reports success leaves the host unregistered.** After a clean-up
that succeeds, after an unregistration of either generation that answers `true`, and after a run
that answers `unregistered`, the unregistered marker is present, the registered one absent, and
the markers read as `unregistered`. This holds from a well-formed world with a sound state
directory named without `..`, when the schedule entry is a plain name in a directory whose way is
clear and is not the unregistered marker, and the cache directory's way is clear and it is
neither the state directory nor a directory above it. -/
theorem unregistration_leaves_unregistered (c : LocalCleanup) (hs : c.store.Plain) (w : World)
    (hwf : w.WellFormed) (hsp : c.SparesMarker w.files w.cwd)
    (hsound : c.store.Sound w.files w.cwd) :
    (∀ (b : Bool) (w' : World), (c.run b).run w = (Except.ok (), w') →
      c.store.LeftUnregistered w') ∧
    (∀ (r : Registrar) (force : Bool), r.remote = .scripted → r.cleanup = c →
      ((r.unregister force).run w).1 = Except.ok true →
      c.store.LeftUnregistered ((r.unregister force).run w).2) ∧
    (∀ o : Orchestrator, o.registrar.remote = .scripted → o.registrar.cleanup = c →
      (o.run.run w).1 = Except.ok RunOutcome.unregistered →
      c.store.LeftUnregistered (o.run.run w).2) := by
  -- an unregistration that answers `true`, from a world with the files of `w`
  have hreg : ∀ (r : Registrar) (force : Bool) (w₀ : World), r.remote = .scripted →
      r.cleanup = c → w₀.files = w.files → w₀.cwd = w.cwd →
      ((r.unregister force).run w₀).1 = Except.ok true →
      c.store.LeftUnregistered ((r.unregister force).run w₀).2 := by
    intro r force w₀ hr hc hf hcwd hok
    subst hc
    obtain ⟨b, w₂, hf₂, hc₂, hrep⟩ := r.unregister_true_cleaned hr force w₀ hok
    have hfiles : w₂.files = w.files := hf₂.trans hf
    have hdir : w₂.cwd = w.cwd := hc₂.trans hcwd
    have hwf₂ : w₂.WellFormed := ⟨hfiles ▸ hwf.plain, hfiles ▸ hwf.rooted, hdir ▸ hwf.cwdPlain⟩
    rw [← hfiles, ← hdir] at hsp hsound
    exact LocalCleanup.Reports.leftUnregistered hs hrep hok hwf₂ hsp hsound
  refine ⟨fun b w' h => LocalCleanup.run_leaves_unregistered hs b h hwf hsp hsound,
    fun r force hr hc hok => hreg r force w hr hc rfl rfl hok, fun o hr hc hok => ?_⟩
  -- a run that answers `unregistered` ends where an unregistration that answered `true` ended
  have hend := o.run_unregistered w w rfl
  rcases hrun : o.run.run w with ⟨e | a, w'⟩ <;> rw [hrun] at hok hend
  · nomatch hok
  simp only [Except.ok.injEq] at hok
  obtain ⟨w₀, hlog, hu⟩ := hend hok
  have hleft := hreg o.registrar o.config.force w₀ hr hc hlog.files_eq hlog.cwd_eq
    (by rw [hu])
  rw [hu] at hleft
  exact hleft

/-- A registered host whose schedule entry is a link in a cron directory, with a link among its
cached files, meets the conditions. -/
theorem unregistration_leaves_unregistered_registered_host :
    let c : LocalCleanup :=
      { store := ⟨"state"⟩, cache := ⟨"cache"⟩, scheduler := .cron "cron/hostwatch" }
    let w : World :=
      { files := { entries := [(["state"], .dir 0o755),
          (["state", ".registered"], .file "x".toUTF8 0o600),
          (["cache"], .dir 0o755), (["cache", "run.tar"], .file "x".toUTF8 0o644),
          (["cache", "latest"], .link "run.tar"),
          (["cron"], .dir 0o755), (["cron", "hostwatch"], .link "/usr/lib/hostwatch/cron")] } }
    c.store.Plain ∧ w.WellFormed ∧ c.SparesMarker w.files w.cwd ∧ c.store.Sound w.files w.cwd ∧
    (∀ (b : Bool) (w' : World), (c.run b).run w = (Except.ok (), w') →
      c.store.LeftUnregistered w') ∧
    (∀ (r : Registrar) (force : Bool), r.remote = .scripted → r.cleanup = c →
      ((r.unregister force).run w).1 = Except.ok true →
      c.store.LeftUnregistered ((r.unregister force).run w).2) ∧
    (∀ o : Orchestrator, o.registrar.remote = .scripted → o.registrar.cleanup = c →
      (o.run.run w).1 = Except.ok RunOutcome.unregistered →
      c.store.LeftUnregistered (o.run.run w).2) := by
  intro c w
  have hs : c.store.Plain := by
    unfold StateStore.Plain
    decide
  have hwf : w.WellFormed := ⟨by decide, by decide, PlainLoc.nil⟩
  have hsp : c.SparesMarker w.files w.cwd := by
    refine ⟨fun p hp => ?_, ClearWay.of_dir_name (m := 0o755) (by decide) rfl, ?_⟩
    · -- the entry `hostwatch` of the directory `cron`
      cases hp
      refine ⟨"cron", "hostwatch", by decide +kernel, by decide,
        ClearWay.of_dir_name (m := 0o755) (by decide) rfl, ?_⟩
      show spelled [] "cron" ++ ["hostwatch"] ≠
        StateStore.fileLoc ⟨"state"⟩ [] Marker.unregistered.fileName
      decide +kernel
    · show ¬ spelled [] "cache" <+: StateStore.base ⟨"state"⟩ [] ++ StateStore.names ⟨"state"⟩
      decide +kernel
  have hsound : c.store.Sound w.files w.cwd := by
    have hbase : c.store.base w.cwd = [] := by decide +kernel
    have hnames : c.store.names = ["state"] := by decide +kernel
    refine sound_of_dirChain ?_ fun m _ => ?_
    · rw [hbase, hnames]
      exact dirChain_cons.2 ⟨⟨0o755, rfl⟩, dirChain_nil _ _⟩
    · cases m <;> decide +kernel
  exact ⟨hs, hwf, hsp, hsound, unregistration_leaves_unregistered c hs w hwf hsp hsound⟩

/-- **A schedule entry at the marker takes it away.** With the schedule entry named
`state/.unregistered`, the legacy unregistration of a host the service does not know writes the
marker, removes it as the schedule entry, and still answers `true`; the markers then read as
`unknown`. -/
theorem schedule_entry_at_marker :
    let r : Registrar :=
      { generation := .legacy, config := {}, remote := .scripted, store := ⟨"state"⟩
        cleanup := { store := ⟨"state"⟩, cache := ⟨"cache"⟩, scheduler := .cron "state/.unregistered" }
        hostName := "host" }
    let out := (r.unregister false).run {}
    out.1 = .ok true ∧ r.store.stateIn out.2 = .unknown := by
  dsimp only
  decide +kernel

end HostAgent
