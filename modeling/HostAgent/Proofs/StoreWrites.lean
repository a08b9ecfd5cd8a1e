import HostAgent.Proofs.MarkerFiles
import HostAgent.Store.Identity
import HostAgent.Proofs.StepFrames
import HostAgent.Proofs.WriteOutcome

/-!
# `Proofs.StoreWrites` — the store's operations and the registration markers

`Proofs.MarkerFiles` sorted the changes of the tree by the markers they can make appear; this
module runs the store's operations through that sorting. A `StoreStep` keeps the working
directory and the remote service, and lets only the markers in `A` appear. Every operation of
the store is one:

* removing a file lets no marker appear (`removeIfExists_within`), and removing a registration
  marker leaves it absent however the removal ends (`deleteMarker_absent`);
* an atomic write of a file of the state directory lets only the marker of that name appear
  (`writeAtomic_within`). The bytes go to a temporary file first, whose name is no marker's,
  and the rename moves that file onto its place (`writeAtomic_outcome`);
* writing a registration marker first removes the marker it excludes, which then stays absent
  however the write ends (`writeMarker_excludes`);
* records, the machine identifier and the registration state's reading let no marker appear.

Everything assumes a plain state directory (`StateStore.Plain`) and a sound tree.
-/

namespace HostAgent.Store

open HostAgent.Host HostAgent.Host.FileTree HostAgent.Agent

theorem Marker.exclusiveWith_ne {m other : Marker} (h : m.exclusiveWith = some other) : other ≠ m := by
  cases m <;> cases other <;> simp_all [Marker.exclusiveWith]

theorem Marker.isRegistration_of_exclusiveWith {m other : Marker} (h : m.exclusiveWith = some other) :
    other.IsRegistration := by
  cases m <;> cases other <;> simp_all [Marker.exclusiveWith, Marker.IsRegistration]

theorem Record.fileName_ne (r : Record) (m : Marker) : m.fileName ≠ r.fileName := by
  cases r <;> cases m <;> decide

namespace StateStore

variable {s : StateStore} {t₁ t₂ t₃ t₄ : FileTree} {cwd : Location} {n name : String}

/-! ## Writing through a temporary file -/

/-- The temporary file `n` is in place in a sound tree, under the directories of the state
directory's path. -/
def TmpReady (s : StateStore) (cwd : Location) (n : String) (t : FileTree) : Prop :=
  s.Sound t cwd ∧ IsFileAt t (s.fileLoc cwd n) ∧ t.DirChain (s.base cwd) s.names

theorem lookup_insert_onPath {l : Location} (hl : OnPath (s.base cwd) s.names l) (name : String)
    (node : Node) (t : FileTree) : (t.insert (s.fileLoc cwd name) node).lookup l = t.lookup l := by
  rw [lookup_insert _ _ _ (onPath_ne_nil hl), if_neg (onPath_ne_fileLoc hl name)]

theorem isFileAt_insert_file (t : FileTree) (name : String) (d : ByteArray) (md : Nat) :
    IsFileAt (t.insert (s.fileLoc cwd name) (.file d md)) (s.fileLoc cwd name) :=
  ⟨d, md, by rw [lookup_insert _ _ _ (fileLoc_ne_nil s cwd name), if_pos rfl]⟩

/-- **A temporary file placed in a sound tree is ready to be moved**: bound at its place, under
the directories of the state directory's path, with the tree still sound. -/
theorem tmpReady_insert (hn : OtherName n) (hsound : s.Sound t₁ cwd)
    (hchain : t₁.DirChain (s.base cwd) s.names) (d : ByteArray) (md : Nat) :
    s.TmpReady cwd n (t₁.insert (s.fileLoc cwd n) (.file d md)) := by
  refine ⟨((onlyAppear_insert_other hn _ : s.OnlyAppear cwd (fun _ => True) _ _) hsound).1,
    isFileAt_insert_file _ _ _ _, ?_⟩
  rwa [dirChain_congr fun l hl => lookup_insert_onPath hl n _ t₁]

/-- **The rename that ends an atomic write lets only the marker of the target's name appear.** -/
theorem onlyAppear_rename_tmp (hs : s.Plain) (hn : OtherName n) (hname : Path.PlainName name)
    (hready : s.TmpReady cwd n t₃)
    (h : t₃.rename cwd (Path.join s.dir n) (Path.join s.dir name) = .ok t₄) :
    s.OnlyAppear cwd (fun m => m.fileName = name) t₃ t₄ := by
  obtain ⟨hsound, hfile, hchain⟩ := hready
  obtain ⟨src, dst, hrs, hrd, ⟨-, rfl⟩ | ⟨-, rfl⟩⟩ := rename_eq_ok h
  · exact .refl _
  obtain ⟨rfl, -⟩ := (resolve_join_eq_ok hs hn.plain hsound.pathLinkFree (by simp)).mp hrs
  obtain ⟨rfl, -⟩ := (resolve_join_eq_ok hs hname hsound.pathLinkFree (by simp)).mp hrd
  by_cases hother : ∀ m : Marker, m.IsRegistration → name ≠ m.fileName
  · exact onlyAppear_move_other hn ⟨hname, hother⟩
  · push Not at hother
    obtain ⟨m, hm, rfl⟩ := hother
    exact onlyAppear_move_marker hn hm rfl hfile hchain

/-- **A finished write through a temporary file lets only the marker of the target's name
appear**: make the state directory, place the temporary file, rename it onto `name`. -/
theorem onlyAppear_write_through {A : Marker → Prop} (hs : s.Plain) (hn : OtherName n)
    (hname : Path.PlainName name) (hA : ∀ m : Marker, m.fileName = name → A m) {t : FileTree}
    (hdirs : t.mkdirAll cwd s.dir 0o755 = .ok t₁) (hchain : t₁.DirChain (s.base cwd) s.names)
    {d : ByteArray} {md : Nat}
    (h : (t₁.insert (s.fileLoc cwd n) (.file d md)).rename cwd (Path.join s.dir n)
      (Path.join s.dir name) = .ok t₂) :
    s.OnlyAppear cwd A t t₂ := by
  intro hsound
  have hmade : s.OnlyAppear cwd A t t₁ := onlyAppear_mkdirAll hdirs
  have hplaced : s.OnlyAppear cwd A t₁ (t₁.insert (s.fileLoc cwd n) (.file d md)) :=
    onlyAppear_insert_other hn _
  -- the temporary file is in place when the rename runs
  have hready := tmpReady_insert hn (hmade hsound).1 hchain d md
  exact (hmade.trans (hplaced.trans ((onlyAppear_rename_tmp hs hn hname hready h).mono
    fun m _ hm => hA m hm))) hsound

/-! ## Steps of the world -/

/-- Registration marker `m` is present in world `w`: a file is bound at its location. -/
def Present (s : StateStore) (w : World) (m : Marker) : Prop :=
  IsFileAt w.files (s.fileLoc w.cwd m.fileName)

/-- **A store step** from `w` to `w'`: the working directory and the remote service stay, and
no registration marker outside `A` appears. -/
structure StoreStep (s : StateStore) (A : Marker → Prop) (w w' : World) : Prop where
  cwd_eq : w'.cwd = w.cwd
  service_eq : w'.service = w.service
  markers : s.OnlyAppear w.cwd A w.files w'.files

namespace StoreStep

variable {A B : Marker → Prop} {w w₁ w₂ w₃ : World}

theorem refl (w : World) : s.StoreStep A w w := ⟨rfl, rfl, .refl _⟩

theorem trans (h₁ : s.StoreStep A w₁ w₂) (h₂ : s.StoreStep A w₂ w₃) : s.StoreStep A w₁ w₃ :=
  ⟨h₂.cwd_eq.trans h₁.cwd_eq, h₂.service_eq.trans h₁.service_eq,
    h₁.markers.trans (h₁.cwd_eq ▸ h₂.markers)⟩

instance : Std.Refl (s.StoreStep A) := ⟨refl⟩

instance : Trans (s.StoreStep A) (s.StoreStep A) (s.StoreStep A) := ⟨trans⟩

theorem mono (h : s.StoreStep A w₁ w₂) (hAB : ∀ m, m.IsRegistration → A m → B m) :
    s.StoreStep B w₁ w₂ :=
  ⟨h.cwd_eq, h.service_eq, h.markers.mono hAB⟩

/-- A step that leaves the files, the working directory and the remote service alone. -/
theorem of_eq (hf : w₂.files = w₁.files) (hc : w₂.cwd = w₁.cwd) (hs : w₂.service = w₁.service) :
    s.StoreStep A w₁ w₂ :=
  ⟨hc, hs, hf ▸ .refl _⟩

theorem of_logOnly (h : w₁.LogOnly w₂) : s.StoreStep A w₁ w₂ := by
  unfold World.LogOnly at h
  rw [h]
  exact of_eq rfl rfl rfl

theorem of_files {t : FileTree} (h : s.OnlyAppear w.cwd A w.files t) :
    s.StoreStep A w { w with files := t } :=
  ⟨rfl, rfl, h⟩

theorem sound (h : s.StoreStep A w₁ w₂) (hsound : s.Sound w₁.files w₁.cwd) :
    s.Sound w₂.files w₂.cwd :=
  h.cwd_eq ▸ (h.markers hsound).1

/-- A registration marker outside `A` present after the step was present before it. -/
theorem present (h : s.StoreStep A w₁ w₂) (hsound : s.Sound w₁.files w₁.cwd) {m : Marker}
    (hm : m.IsRegistration) (hA : ¬ A m) (hp : s.Present w₂ m) : s.Present w₁ m := by
  unfold Present at hp
  rw [h.cwd_eq] at hp
  exact (h.markers hsound).2 m hm hA hp

end StoreStep

/-! ## Steps that touch no marker -/

section Within

variable {A : Marker → Prop} {α : Type}

theorem within_of_eq {act : Agent α} (h : ∀ w, (act.run w).2.files = w.files ∧
    (act.run w).2.cwd = w.cwd ∧ (act.run w).2.service = w.service) :
    Within (s.StoreStep A) act :=
  fun w => StoreStep.of_eq (h w).1 (h w).2.1 (h w).2.2

theorem within_log (l : Level) (msg : String) : Within (s.StoreStep A) (log l msg) :=
  within_of_eq fun _ => ⟨rfl, rfl, rfl⟩

theorem within_random128 : Within (s.StoreStep A) Agent.random128 := by
  intro w
  -- reduce the projections first: comparing the drawn entropy with the old one is costly
  rw [run_random128]
  dsimp only
  exact StoreStep.of_eq rfl rfl rfl

theorem within_change {f : FileTree → Location → Except IoError FileTree}
    (hf : ∀ t cwd t', f t cwd = .ok t' → s.OnlyAppear cwd A t t') : Within (s.StoreStep A) (change f) := by
  intro w
  rw [run_change]
  split
  · exact StoreStep.of_files (hf _ _ _ ‹_›)
  · exact StoreStep.refl w

theorem within_attempt {f : FileTree → Location → Except IoError FileTree}
    (hf : ∀ t cwd t', f t cwd = .ok t' → s.OnlyAppear cwd A t t') :
    Within (s.StoreStep A) (attempt f) := by
  intro w
  rw [run_attempt]
  split
  · exact StoreStep.of_files (hf _ _ _ ‹_›)
  · exact StoreStep.refl w

end Within

/-! ## Removing -/

variable {A : Marker → Prop}

theorem removeIfExists_within (path : String) : Within (s.StoreStep A) (removeIfExists path) :=
  removeIfExists_within_of (within_attempt fun _ _ _ h => onlyAppear_removeFile h)

theorem deleteMarker_within (m : Marker) : Within (s.StoreStep A) (s.deleteMarker m) :=
  removeIfExists_within _

theorem deleteRecord_within (r : Record) : Within (s.StoreStep A) (s.deleteRecord r) :=
  removeIfExists_within _

/-- A sound tree in which registration marker `m` is absent. -/
def Absent (s : StateStore) (m : Marker) (w : World) : Prop :=
  s.Sound w.files w.cwd ∧ ¬ s.Present w m

/-- **Deleting a registration marker leaves it absent**, whether the removal succeeds or fails:
a present marker resolves, and a file that resolves is removed. -/
theorem deleteMarker_absent (hs : s.Plain) {m : Marker} (hm : m.IsRegistration) :
    Triple (fun w => s.Sound w.files w.cwd) (s.deleteMarker m) (fun _ => s.Absent m) (s.Absent m) := by
  refine Triple.of_world fun w hsound => ?_
  have hstep : s.StoreStep (fun _ => False) w ((s.deleteMarker m).run w).2 := deleteMarker_within m w
  refine ⟨hstep.sound hsound, ?_⟩
  by_cases hp : s.Present w m
  · obtain ⟨data, mode, hfile⟩ := hp
    have hr : w.files.resolve w.cwd (s.markerPath m) false = .ok (s.fileLoc w.cwd m.fileName) :=
      (resolve_join_eq_ok hs m.plainName hsound.pathLinkFree (by simp)).mpr
        ⟨rfl, hsound.chainOfMarker m hm ⟨data, mode, hfile⟩⟩
    have hrm : w.files.removeFile w.cwd (s.markerPath m) =
        .ok (w.files.erase (s.fileLoc w.cwd m.fileName)) := by
      simp [removeFile, hr, hfile, bind, Except.bind, pure, Except.pure]
    rw [deleteMarker, removeIfExists, run_bind_ok (run_attempt_ok hrm)]
    simp [Present, IsFileAt, lookup_erase _ _ (fileLoc_ne_nil s _ _)]
  · exact fun hp' => hp (hstep.present hsound hm id hp')

/-- An absent marker outside `A` stays absent over a store step. -/
theorem StoreStep.absent {A : Marker → Prop} {w w' : World} (h : s.StoreStep A w w') {m : Marker}
    (hm : m.IsRegistration) (hA : ¬ A m) (habs : s.Absent m w) : s.Absent m w' :=
  ⟨h.sound habs.1, fun hp => habs.2 (h.present habs.1 hm hA hp)⟩

/-! ## Writing -/

/-- **An atomic write of file `name` of the state directory lets only the marker of that name
appear**, however it ends: a write that fails leaves at most the directories it made, and one
that succeeds moved its finished temporary file onto `name`. -/
theorem writeAtomic_within (hs : s.Plain) (hname : Path.PlainName name) (bytes : ByteArray) :
    Within (s.StoreStep (fun m => m.fileName = name)) (s.writeAtomic (Path.join s.dir name) bytes) := by
  intro w
  have hhost := s.writeAtomic_hostOnly (Path.join s.dir name) bytes w
  refine ⟨hhost.cwd_eq, hhost.service_eq, fun hsound => ?_⟩
  have hout := writeAtomic_outcome hs hsound.pathLinkFree (Path.join s.dir name) bytes w rfl
  rcases hrun : (s.writeAtomic (Path.join s.dir name) bytes).run w with ⟨_ | _, w'⟩ <;>
    rw [hrun] at hout
  · obtain ⟨t, E, rfl | hdirs, rfl⟩ := hout
    · exact OnlyAppear.refl _ hsound
    · exact onlyAppear_mkdirAll hdirs hsound
  · obtain ⟨n, p, t', ⟨t, E, hdirs, hn, -, hchain, rfl⟩, hren, rfl⟩ := hout
    exact onlyAppear_write_through hs hn.otherName hname (fun _ h => h) hdirs hchain hren hsound

theorem writeAtomic_marker_within (hs : s.Plain) (m : Marker) (bytes : ByteArray) :
    Within (s.StoreStep (· = m)) (s.writeAtomic (s.markerPath m) bytes) :=
  fun w => (writeAtomic_within hs m.plainName bytes w).mono fun _ _ h => Marker.fileName_inj h

/-- **Writing a marker lets only that marker appear.** -/
theorem writeMarker_within (hs : s.Plain) (m : Marker) :
    Within (s.StoreStep (· = m)) (s.writeMarker m) :=
  s.writeMarker_within_of (fun other _ => deleteMarker_within other)
    (fun _ => writeAtomic_marker_within hs m _) within_log

/-- **Writing a registration marker leaves the marker it excludes absent**, however the write
ends: that marker is deleted first, and the write lets only the written one appear. -/
theorem writeMarker_excludes (hs : s.Plain) {m other : Marker} (hother : m.exclusiveWith = some other) :
    Triple (fun w => s.Sound w.files w.cwd) (s.writeMarker m) (fun _ => s.Absent other)
      (s.Absent other) := by
  have hreg := Marker.isRegistration_of_exclusiveWith hother
  have hkeep : ∀ w w', s.StoreStep (· = m) w w' → s.Absent other w → s.Absent other w' :=
    fun _ _ h => h.absent hreg (Marker.exclusiveWith_ne hother)
  simp only [writeMarker, hother]
  refine Triple.bind (deleteMarker_absent hs hreg) fun _ => Within.keeps ?_ hkeep
  exact Within.bind Within.now fun _ => Within.bind (writeAtomic_marker_within hs m _) fun _ =>
    within_log _ _

/-- Writing a record lets no marker appear. -/
theorem writeRecord_within (hs : s.Plain) (r : Record) (bytes : ByteArray) :
    Within (s.StoreStep (fun _ => False)) (s.writeRecord r bytes) := by
  unfold writeRecord
  refine Within.bind (fun w => (writeAtomic_within hs r.plainName _ w).mono fun m _ h => ?_)
    fun _ => within_log _ _
  exact Record.fileName_ne r m h

theorem clearRegistration_within : Within (s.StoreStep (fun _ => False)) s.clearRegistration :=
  Within.bind (deleteMarker_within _) fun _ => deleteMarker_within _

/-! ## Reading -/

theorem registrationState_within : Within (s.StoreStep (fun _ => False)) s.registrationState :=
  s.registrationState_within_of within_log

/-- **Reading the registration state when the two markers are not both present** answers the
state they give and changes nothing: no warning is logged. -/
theorem registrationState_run (w : World)
    (hnot : ¬ (w.files.isFile w.cwd (s.markerPath .registered) = true ∧
      w.files.isFile w.cwd (s.markerPath .unregistered) = true)) :
    s.registrationState.run w = (.ok (stateOf (w.files.isFile w.cwd (s.markerPath .registered))
      (w.files.isFile w.cwd (s.markerPath .unregistered))), w) := by
  unfold registrationState hasMarker
  rcases hr : w.files.isFile w.cwd (s.markerPath .registered) <;>
    rcases hu : w.files.isFile w.cwd (s.markerPath .unregistered) <;>
    simp_all [run_bind, run_query, Except.map]

end StateStore

namespace MachineIdentity

open StateStore

variable {s : StateStore}

/-- Resolving the machine identifier touches only the `machine-id` record: no marker appears. -/
theorem resolve_within (hs : s.Plain) (regenerate : Bool) :
    Within (s.StoreStep (fun _ => False)) (resolve s regenerate) :=
  resolve_within_of s (deleteRecord_within _) within_random128 (writeRecord_within hs _) within_log

end MachineIdentity

end HostAgent.Store
