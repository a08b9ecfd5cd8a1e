import HostAgent.Proofs.StoreWrites

/-!
# `Proofs.StoreOutcomes` — what the store's operations leave behind

`Proofs.StoreWrites` bounds what the store's operations can do to the registration markers:
which of them may appear. This module says what the operations leave when they succeed, and
which of them remove no marker.

* A successful atomic write leaves its bytes at the file's location, with the directories on
  the way in place (`writeAtomic_lands`): the temporary file was moved there.
* A successful write of a registration marker leaves it present and the marker it excludes
  absent, so the markers read as the state the write stands for (`markRegistered_state`,
  `markUnregistered_state`).
* Clearing the registration leaves both markers absent (`clearRegistration_absent`).
* Writing, reading and removing the records, and so resolving the machine identifier, keep
  every registration marker as it was (`MarkersStay`, `resolve_stay`). Regenerating the
  identifier leaves the new one in its record, where reading finds it
  (`resolve_regenerate_record`, `RecordHolds.readRecord_run`).

`stateIn` is the registration state that the markers of a world give; reading it changes at
most the journal (`registrationState_run_stateIn`).
-/

namespace HostAgent

open HostAgent.Host HostAgent.Host.FileTree HostAgent.Agent

/-- Two triples of one action hold together. -/
theorem Triple.and {α : Type} {P : World → Prop} {act : Agent α} {Q₁ Q₂ : α → World → Prop}
    {E₁ E₂ : World → Prop} (h₁ : Triple P act Q₁ E₁) (h₂ : Triple P act Q₂ E₂) :
    Triple P act (fun a w => Q₁ a w ∧ Q₂ a w) (fun w => E₁ w ∧ E₂ w) := by
  intro w hw
  have e₁ := h₁ w hw
  have e₂ := h₂ w hw
  rcases hr : act.run w with ⟨_ | a, w'⟩ <;> rw [hr] at e₁ e₂
  · exact ⟨e₁, e₂⟩
  · exact ⟨e₁, e₂⟩

/-- A triple for an action that changes only the journal: what the journal does not decide is
kept. -/
theorem triple_of_logOnly {α : Type} {P : World → Prop} {act : Agent α}
    (h : Within World.LogOnly act) (hP : ∀ w w', w.LogOnly w' → P w → P w') :
    Triple P act (fun _ => P) (fun _ => True) :=
  (Within.keeps h hP).mono (fun _ h => h) (fun _ _ h => h) (fun _ _ => trivial)

/-- What a relation every run of `act` satisfies says of one run. -/
theorem Within.of_run {α : Type} {R : World → World → Prop} {act : Agent α} {w w' : World}
    {x : Except Fault α} (h : Within R act) (hr : act.run w = (x, w')) : R w w' := by
  have := h w
  rwa [hr] at this

/-- A bind that succeeds ran both sides successfully. -/
theorem run_bind_eq_ok {α β : Type} {x : Agent α} {f : α → Agent β} {b : β} {w w' : World}
    (h : (x >>= f).run w = (.ok b, w')) : ∃ a w₁, x.run w = (.ok a, w₁) ∧ (f a).run w₁ = (.ok b, w') := by
  rcases hx : x.run w with ⟨_ | a, w₁⟩
  · rw [run_bind_error hx] at h
    cases h
  · rw [run_bind_ok hx] at h
    exact ⟨a, w₁, rfl, h⟩

namespace Store.StateStore

variable {s : StateStore} {w w' : World} {t t' : FileTree} {cwd : Location} {n name : String}
  {α : Type}

/-! ## The state the markers give -/

/-- The registration state that the markers of world `w` give. -/
def stateIn (s : StateStore) (w : World) : RegistrationState :=
  stateOf (w.files.isFile w.cwd (s.markerPath .registered))
    (w.files.isFile w.cwd (s.markerPath .unregistered))

theorem stateIn_of_logOnly (h : w.LogOnly w') : s.stateIn w' = s.stateIn w := by
  unfold World.LogOnly at h
  rw [h]
  rfl

/-- **Reading the registration state** answers the state the markers give; at most a warning
goes to the journal. -/
theorem registrationState_run_stateIn (w : World) :
    ∃ w', s.registrationState.run w = (.ok (s.stateIn w), w') ∧ w.LogOnly w' := by
  unfold registrationState hasMarker
  rw [run_bind_ok (run_query _ w), run_bind_ok (run_query _ w)]
  dsimp only
  split
  · obtain ⟨w', hw, hlog⟩ := run_warn ("Both registration markers present in " ++ s.dir ++
      ", treating state as unknown") w
    exact ⟨w', by rw [run_bind_ok hw]; rfl, hlog⟩
  · exact ⟨w, rfl, .refl w⟩

theorem Present.of_logOnly {m : Marker} (h : w.LogOnly w') (hp : s.Present w m) : s.Present w' m := by
  unfold World.LogOnly at h
  rw [h]
  exact hp

theorem Absent.of_logOnly {m : Marker} (h : w.LogOnly w') (ha : s.Absent m w) : s.Absent m w' := by
  unfold World.LogOnly at h
  rw [h]
  exact ha

/-- A present marker reads as a file; an absent one does not. -/
theorem isFile_marker_eq (hs : s.Plain) (hsound : s.Sound w.files w.cwd) {m : Marker}
    (hm : m.IsRegistration) (b : Bool) (hb : b = true ↔ s.Present w m) :
    w.files.isFile w.cwd (s.markerPath m) = b := by
  rw [Bool.eq_iff_iff, isFile_markerPath_iff hs hsound hm]
  exact hb.symm

/-- With `m` present and the marker it excludes absent, the markers read as `m`'s state. -/
theorem stateIn_registered (hs : s.Plain) (hp : s.Present w .registered)
    (ha : s.Absent .unregistered w) : s.stateIn w = .registered := by
  unfold stateIn
  rw [isFile_marker_eq hs ha.1 (m := .registered) rfl true (iff_of_true rfl hp),
    isFile_marker_eq hs ha.1 (m := .unregistered) rfl false (iff_of_false Bool.false_ne_true ha.2)]
  rfl

theorem stateIn_unregistered (hs : s.Plain) (hp : s.Present w .unregistered)
    (ha : s.Absent .registered w) : s.stateIn w = .unregistered := by
  unfold stateIn
  rw [isFile_marker_eq hs ha.1 (m := .registered) rfl false (iff_of_false Bool.false_ne_true ha.2),
    isFile_marker_eq hs ha.1 (m := .unregistered) rfl true (iff_of_true rfl hp)]
  rfl

/-- With both markers absent the state is unknown. -/
theorem stateIn_cleared (hs : s.Plain) (hr : s.Absent .registered w)
    (hu : s.Absent .unregistered w) : s.stateIn w = .unknown := by
  unfold stateIn
  rw [isFile_marker_eq hs hr.1 (m := .registered) rfl false (iff_of_false Bool.false_ne_true hr.2),
    isFile_marker_eq hs hr.1 (m := .unregistered) rfl false (iff_of_false Bool.false_ne_true hu.2)]
  rfl

/-! ## Where a successful write lands -/

/-- **The closing rename puts the temporary file at the target**, and keeps the directories on
the way. -/
theorem rename_tmp_lands (hs : s.Plain) (hn : OtherName n) (hname : Path.PlainName name)
    {t₃ t₄ : FileTree} (hsound : s.Sound t₃ cwd) (hchain : t₃.DirChain (s.base cwd) s.names)
    (h : t₃.rename cwd (Path.join s.dir n) (Path.join s.dir name) = .ok t₄) :
    t₄.lookup (s.fileLoc cwd name) = t₃.lookup (s.fileLoc cwd n) ∧
      t₄.DirChain (s.base cwd) s.names := by
  obtain ⟨src, dst, hrs, hrd, ⟨hsd, rfl⟩ | ⟨hsd, rfl⟩⟩ := rename_eq_ok h
  all_goals
    obtain ⟨rfl, -⟩ := (resolve_join_eq_ok hs hn.plain hsound.pathLinkFree (by simp)).mp hrs
    obtain ⟨rfl, -⟩ := (resolve_join_eq_ok hs hname hsound.pathLinkFree (by simp)).mp hrd
  · exact ⟨by rw [hsd], hchain⟩
  -- both are files of the directory, so neither is below the other or on the way to it
  have hnot : ¬ s.fileLoc cwd name <+: s.fileLoc cwd n := fun hpre =>
    hsd (hpre.eq_of_length (by simp [fileLoc])).symm
  have hpath : ∀ l, OnPath (s.base cwd) s.names l →
      (t₃.move (s.fileLoc cwd n) (s.fileLoc cwd name)).lookup l = t₃.lookup l := by
    intro l hl
    have hshort : ∀ x, ¬ s.fileLoc cwd x <+: l := fun x hpre =>
      onPath_ne_fileLoc hl x (hpre.eq_of_length (by
        have := (prefix_of_onPath hl []).length_le
        have := hpre.length_le
        simp [fileLoc] at *
        omega)).symm
    exact lookup_move t₃ (onPath_ne_nil hl) (hshort n) (hshort name)
  exact ⟨lookup_move_target t₃ (fileLoc_ne_nil s cwd n) (fileLoc_ne_nil s cwd name) hnot,
    (dirChain_congr hpath).mpr hchain⟩

/-- **A successful atomic write of file `name` of the state directory leaves its bytes there**,
under the directories of the state directory's path. -/
theorem writeAtomic_lands (hs : s.Plain) (hname : Path.PlainName name) {bytes : ByteArray}
    (h : (s.writeAtomic (Path.join s.dir name) bytes).run w = (.ok (), w'))
    (hsound : s.Sound w.files w.cwd) :
    w'.cwd = w.cwd ∧ w'.files.lookup (s.fileLoc w.cwd name) = some (.file bytes 0o600) ∧
      w'.files.DirChain (s.base w.cwd) s.names := by
  have hout := writeAtomic_outcome hs hsound.pathLinkFree (Path.join s.dir name) bytes w rfl
  rw [h] at hout
  obtain ⟨n, p, t', ⟨t, E, hdirs, hn, -, hchain, rfl⟩, hren, rfl⟩ := hout
  -- the finished temporary file, in place in a sound tree, moves onto `name`
  have hsound₁ := ((onlyAppear_mkdirAll hdirs : s.OnlyAppear w.cwd (fun _ => True) _ _) hsound).1
  obtain ⟨hsound₂, -, hchain₂⟩ := tmpReady_insert hn.otherName hsound₁ hchain bytes 0o600
  obtain ⟨hland, hchain'⟩ := rename_tmp_lands hs hn.otherName hname hsound₂ hchain₂ hren
  refine ⟨rfl, hland.trans ?_, hchain'⟩
  rw [lookup_insert _ _ _ (fileLoc_ne_nil s _ n), if_pos rfl]

/-- The triple form: from a sound tree, a write that succeeds leaves a file at its location. -/
theorem writeAtomic_lands_triple (hs : s.Plain) (hname : Path.PlainName name) (bytes : ByteArray) :
    Triple (fun w => s.Sound w.files w.cwd) (s.writeAtomic (Path.join s.dir name) bytes)
      (fun _ w => IsFileAt w.files (s.fileLoc w.cwd name)) (fun _ => True) := by
  intro w hsound
  rcases h : (s.writeAtomic (Path.join s.dir name) bytes).run w with ⟨_ | _, w'⟩
  · trivial
  · obtain ⟨hcwd, hl, -⟩ := writeAtomic_lands hs hname h hsound
    exact ⟨bytes, 0o600, hcwd ▸ hl⟩

/-! ## Writing the registration markers -/

/-- A store step keeps the state directory sound, whichever way it ends. -/
theorem sound_triple_of_within {A : Marker → Prop} {act : Agent α} (h : Within (s.StoreStep A) act) :
    Triple (fun w => s.Sound w.files w.cwd) act (fun _ w => s.Sound w.files w.cwd) (fun _ => True) :=
  Triple.mono (Within.keeps h fun _ _ hstep hsound => hstep.sound hsound) (fun _ h => h)
    (fun _ _ h => h) (fun _ _ => trivial)

/-- **A marker write that succeeds leaves the marker present.** -/
theorem writeMarker_present (hs : s.Plain) (m : Marker) :
    Triple (fun w => s.Sound w.files w.cwd) (s.writeMarker m) (fun _ w => s.Present w m)
      (fun _ => True) := by
  -- after the file is in place only the journal changes
  have hlog : ∀ msg, Triple (fun w => s.Present w m) (debug msg) (fun _ w => s.Present w m)
      (fun _ => True) := fun msg =>
    triple_of_logOnly (logOnly_log _ msg) fun _ _ h hp => Present.of_logOnly h hp
  have hwrite : Triple (fun w => s.Sound w.files w.cwd) (do
      let stamp := (← Agent.now).rfc3339
      s.writeAtomic (s.markerPath m) stamp.toUTF8
      Agent.debug ("Wrote marker " ++ m.fileName)) (fun _ w => s.Present w m) (fun _ => True) :=
    Triple.bind (sound_triple_of_within (A := fun _ => False) Within.now) fun _ =>
      Triple.bind (writeAtomic_lands_triple hs m.plainName _) fun _ => hlog _
  rcases hex : m.exclusiveWith with _ | other
  · simpa only [writeMarker, hex] using hwrite
  · simp only [writeMarker, hex]
    exact Triple.bind (sound_triple_of_within (deleteMarker_within (A := fun _ => False) other))
      fun _ => hwrite

/-- **A registration marker write that succeeds leaves that marker present and the one it
excludes absent.** -/
theorem writeMarker_state (hs : s.Plain) {m other : Marker} (hother : m.exclusiveWith = some other) :
    Triple (fun w => s.Sound w.files w.cwd) (s.writeMarker m)
      (fun _ w => s.Present w m ∧ s.Absent other w) (fun _ => True) :=
  (Triple.and (writeMarker_present hs m) (writeMarker_excludes hs hother)).mono (fun _ h => h)
    (fun _ _ h => h) (fun _ _ => trivial)

/-- Marking the host registered, when it succeeds, makes the markers read registered. -/
theorem markRegistered_state (hs : s.Plain) :
    Triple (fun w => s.Sound w.files w.cwd) s.markRegistered
      (fun _ w => s.Sound w.files w.cwd ∧ s.stateIn w = .registered) (fun _ => True) :=
  (writeMarker_state hs rfl).mono (fun _ h => h)
    (fun _ _ h => ⟨h.2.1, stateIn_registered hs h.1 h.2⟩) (fun _ _ => trivial)

/-- Marking the host unregistered, when it succeeds, makes the markers read unregistered. -/
theorem markUnregistered_state (hs : s.Plain) :
    Triple (fun w => s.Sound w.files w.cwd) s.markUnregistered
      (fun _ w => s.Sound w.files w.cwd ∧ s.stateIn w = .unregistered) (fun _ => True) :=
  (writeMarker_state hs rfl).mono (fun _ h => h)
    (fun _ _ h => ⟨h.2.1, stateIn_unregistered hs h.1 h.2⟩) (fun _ _ => trivial)

/-- **Clearing the registration leaves both markers absent**, when it succeeds. -/
theorem clearRegistration_absent (hs : s.Plain) :
    Triple (fun w => s.Sound w.files w.cwd) s.clearRegistration
      (fun _ w => s.Absent .registered w ∧ s.Absent .unregistered w) (fun _ => True) := by
  unfold clearRegistration
  refine Triple.bind ((deleteMarker_absent hs (m := .registered) rfl).mono (fun _ h => h) (fun _ _ h => h)
    (fun _ _ => trivial)) fun _ => ?_
  -- the second removal keeps the first marker absent
  intro w hr
  have hu := deleteMarker_absent hs (m := .unregistered) rfl w hr.1
  have hstep := deleteMarker_within (A := fun _ => False) (s := s) .unregistered w
  rcases h : (s.deleteMarker .unregistered).run w with ⟨_ | _, w'⟩ <;> rw [h] at hu hstep
  · trivial
  · exact ⟨hstep.absent rfl id hr, hu⟩

/-! ## Operations that keep every marker -/

/-- Every registration marker bound in `t` is still bound in `t'`. -/
def Retains (s : StateStore) (cwd : Location) (t t' : FileTree) : Prop :=
  ∀ m : Marker, m.IsRegistration →
    IsFileAt t (s.fileLoc cwd m.fileName) → IsFileAt t' (s.fileLoc cwd m.fileName)

theorem Retains.trans {t₁ t₂ t₃ : FileTree} (h₁ : s.Retains cwd t₁ t₂) (h₂ : s.Retains cwd t₂ t₃) :
    s.Retains cwd t₁ t₃ :=
  fun m hm hf => h₂ m hm (h₁ m hm hf)

theorem retains_of_agree (h : ∀ m : Marker, m.IsRegistration →
    t'.lookup (s.fileLoc cwd m.fileName) = t.lookup (s.fileLoc cwd m.fileName)) :
    s.Retains cwd t t' := by
  rintro m hm ⟨d, md, hf⟩
  exact ⟨d, md, (h m hm).trans hf⟩

theorem fileLoc_marker_ne (hn : OtherName n) {m : Marker} (hm : m.IsRegistration) :
    s.fileLoc cwd m.fileName ≠ s.fileLoc cwd n := by
  intro h
  have hpre : s.fileLoc cwd n <+: s.fileLoc cwd m.fileName := by
    rw [h]
  exact not_fileLoc_prefix_watched hn (.inr ⟨m, hm, rfl⟩) hpre

theorem retains_insert_other (hn : OtherName n) (node : Node) :
    s.Retains cwd t (t.insert (s.fileLoc cwd n) node) :=
  retains_of_agree fun _ hm => by
    rw [lookup_insert _ _ _ (fileLoc_ne_nil s cwd _), if_neg (fileLoc_marker_ne hn hm)]

theorem retains_erase_other (hn : OtherName n) : s.Retains cwd t (t.erase (s.fileLoc cwd n)) :=
  retains_of_agree fun _ hm => by
    rw [lookup_erase _ _ (fileLoc_ne_nil s cwd _), if_neg (fileLoc_marker_ne hn hm)]

theorem retains_move_other {a b : String} (ha : OtherName a) (hb : OtherName b) :
    s.Retains cwd t (t.move (s.fileLoc cwd a) (s.fileLoc cwd b)) :=
  retains_of_agree fun m hm => lookup_move t (fileLoc_ne_nil s cwd _)
    (not_fileLoc_prefix_watched ha (.inr ⟨m, hm, rfl⟩))
    (not_fileLoc_prefix_watched hb (.inr ⟨m, hm, rfl⟩))

/-- Adding directories where nothing was keeps every binding there was. -/
theorem lookup_of_addsDirs (h : AddsDirs t t') {l : Location} (hl : l ≠ []) {node : Node}
    (hnode : t.lookup l = some node) : t'.lookup l = some node := by
  induction h with
  | refl => exact hnode
  | step loc mode fresh _ ih =>
    apply ih
    rw [lookup_insert _ _ _ hl, if_neg]
    · exact hnode
    · rintro rfl
      rw [fresh] at hnode
      cases hnode

theorem retains_mkdirAll {path : String} {mode : Nat} (h : t.mkdirAll cwd path mode = .ok t') :
    s.Retains cwd t t' := by
  rintro m - ⟨d, md, hf⟩
  exact ⟨d, md, lookup_of_addsDirs (mkdirAllWith_eq_ok _ _ h) (fileLoc_ne_nil s cwd _) hf⟩

theorem retains_removeFile_other (hs : s.Plain) (hn : OtherName n) (hsound : s.Sound t cwd)
    (h : t.removeFile cwd (Path.join s.dir n) = .ok t') : s.Retains cwd t t' := by
  obtain ⟨loc, node, hr, -, -, rfl⟩ := removeFile_eq_ok h
  obtain ⟨rfl, -⟩ := (resolve_join_eq_ok hs hn.plain hsound.pathLinkFree (by simp)).mp hr
  exact retains_erase_other hn

theorem retains_rename_other (hs : s.Plain) {a b : String} (ha : OtherName a) (hb : OtherName b)
    (hsound : s.Sound t cwd) (h : t.rename cwd (Path.join s.dir a) (Path.join s.dir b) = .ok t') :
    s.Retains cwd t t' := by
  obtain ⟨src, dst, hrs, hrd, ⟨-, rfl⟩ | ⟨-, rfl⟩⟩ := rename_eq_ok h
  · exact fun _ _ hf => hf
  obtain ⟨rfl, -⟩ := (resolve_join_eq_ok hs ha.plain hsound.pathLinkFree (by simp)).mp hrs
  obtain ⟨rfl, -⟩ := (resolve_join_eq_ok hs hb.plain hsound.pathLinkFree (by simp)).mp hrd
  exact retains_move_other ha hb

/-- From `w` to `w'` the store takes a step that lets no registration marker appear, and none
that was present goes: the markers stay exactly as they were. -/
def MarkersStay (s : StateStore) (w w' : World) : Prop :=
  s.StoreStep (fun _ => False) w w' ∧
    (s.Sound w.files w.cwd → ∀ m : Marker, m.IsRegistration → s.Present w m → s.Present w' m)

namespace MarkersStay

theorem refl (w : World) : s.MarkersStay w w := ⟨.refl w, fun _ _ _ h => h⟩

theorem trans {w₁ w₂ w₃ : World} (h₁ : s.MarkersStay w₁ w₂) (h₂ : s.MarkersStay w₂ w₃) :
    s.MarkersStay w₁ w₃ :=
  ⟨h₁.1.trans h₂.1, fun hsound m hm hp => h₂.2 (h₁.1.sound hsound) m hm (h₁.2 hsound m hm hp)⟩

instance : Std.Refl s.MarkersStay := ⟨refl⟩

instance : Trans s.MarkersStay s.MarkersStay s.MarkersStay := ⟨trans⟩

theorem of_logOnly (h : w.LogOnly w') : s.MarkersStay w w' :=
  ⟨.of_logOnly h, fun _ _ _ hp => Present.of_logOnly h hp⟩

/-- A step that leaves the files, the working directory and the remote service alone. -/
theorem of_eq (hf : w'.files = w.files) (hc : w'.cwd = w.cwd) (hsv : w'.service = w.service) :
    s.MarkersStay w w' := by
  refine ⟨.of_eq hf hc hsv, fun _ m _ hp => ?_⟩
  unfold Present
  rw [hf, hc]
  exact hp

theorem present_iff (h : s.MarkersStay w w') (hsound : s.Sound w.files w.cwd) {m : Marker}
    (hm : m.IsRegistration) : s.Present w' m ↔ s.Present w m :=
  ⟨h.1.present hsound hm id, h.2 hsound m hm⟩

/-- The markers read the same state after the step. -/
theorem stateIn_eq (hs : s.Plain) (h : s.MarkersStay w w') (hsound : s.Sound w.files w.cwd) :
    s.stateIn w' = s.stateIn w := by
  have hsound' := h.1.sound hsound
  have hreg : ∀ m : Marker, m.IsRegistration →
      w'.files.isFile w'.cwd (s.markerPath m) = w.files.isFile w.cwd (s.markerPath m) := by
    intro m hm
    rw [Bool.eq_iff_iff, isFile_markerPath_iff hs hsound' hm, isFile_markerPath_iff hs hsound hm]
    exact h.present_iff hsound hm
  unfold stateIn
  rw [hreg .registered rfl, hreg .unregistered rfl]

end MarkersStay

theorem stay_of_logOnly {act : Agent α} (h : Within World.LogOnly act) : Within s.MarkersStay act :=
  fun w => .of_logOnly (h w)

/-- **An atomic write of another file of the state directory keeps every marker**: making the
directories, placing the temporary file and the closing rename touch no marker's location, and
a write that fails leaves at most the directories. -/
theorem writeAtomic_stay (hs : s.Plain) (hname : OtherName name) (bytes : ByteArray) :
    Within s.MarkersStay (s.writeAtomic (Path.join s.dir name) bytes) := by
  intro w
  refine ⟨(writeAtomic_within hs hname.plain bytes w).mono fun m hm h =>
    hname.not_marker m hm h.symm, fun hsound => ?_⟩
  have hout := writeAtomic_outcome hs hsound.pathLinkFree (Path.join s.dir name) bytes w rfl
  rcases hrun : (s.writeAtomic (Path.join s.dir name) bytes).run w with ⟨_ | _, w'⟩ <;>
    rw [hrun] at hout
  · obtain ⟨t, E, rfl | hdirs, rfl⟩ := hout
    · exact fun _ _ hp => hp
    · exact retains_mkdirAll hdirs
  · obtain ⟨n, p, t', ⟨t, E, hdirs, hn, -, hchain, rfl⟩, hren, rfl⟩ := hout
    have hsound₁ := ((onlyAppear_mkdirAll hdirs : s.OnlyAppear w.cwd (fun _ => True) _ _) hsound).1
    have hready := tmpReady_insert hn.otherName hsound₁ hchain bytes 0o600
    exact (retains_mkdirAll hdirs).trans ((retains_insert_other hn.otherName _).trans
      (retains_rename_other hs hn.otherName hname hready.1 hren))

/-- A record's name is another file of the state directory. -/
theorem Record.otherName (r : Record) : OtherName r.fileName :=
  ⟨r.plainName, fun m _ h => Record.fileName_ne r m h.symm⟩

theorem writeRecord_stay (hs : s.Plain) (r : Record) (bytes : ByteArray) :
    Within s.MarkersStay (s.writeRecord r bytes) :=
  Within.bind (writeAtomic_stay hs (Record.otherName r) bytes) fun _ =>
    stay_of_logOnly (logOnly_log _ _)

/-- Removing another file of the state directory keeps every marker. -/
theorem removeIfExists_stay (hs : s.Plain) (hname : OtherName name) :
    Within s.MarkersStay (removeIfExists (Path.join s.dir name)) := by
  intro w
  refine ⟨removeIfExists_within _ w, fun hsound => ?_⟩
  unfold removeIfExists
  rcases h : w.files.removeFile w.cwd (Path.join s.dir name) with e | t
  · rw [run_bind_ok (run_attempt_error h)]
    -- a failed removal changes nothing, whatever is made of the error
    have hkeep : ∀ act : Agent Unit, (act.run w).2 = w → ∀ m : Marker, m.IsRegistration →
        s.Present w m → s.Present (act.run w).2 m := fun _ heq _ _ hp => by rw [heq]; exact hp
    split
    · exact hkeep _ rfl
    · exact hkeep _ rfl
    · exact hkeep _ rfl
  · rw [run_bind_ok (run_attempt_ok h)]
    exact retains_removeFile_other hs hname hsound h

theorem deleteRecord_stay (hs : s.Plain) (r : Record) : Within s.MarkersStay (s.deleteRecord r) :=
  removeIfExists_stay hs (Record.otherName r)

/-- Reading a record whose file is in place answers its bytes. -/
theorem readRecord_run_of_lookup (hs : s.Plain) (hsound : s.Sound w.files w.cwd) {r : Record}
    {d : ByteArray} {md : Nat} (hl : w.files.lookup (s.fileLoc w.cwd r.fileName) = some (.file d md))
    (hchain : w.files.DirChain (s.base w.cwd) s.names) :
    (s.readRecord r).run w = (.ok (some d), w) := by
  have hres : w.files.resolve w.cwd (s.recordPath r) true = .ok (s.fileLoc w.cwd r.fileName) :=
    (resolve_join_eq_ok hs r.plainName hsound.pathLinkFree (fun _ _ => by rw [hl]; simp)).mpr
      ⟨rfl, hchain⟩
  have hread : w.files.readFile w.cwd (s.recordPath r) = .ok d := by
    simp [readFile, stat, hres, hl, bind, Except.bind, pure, Except.pure]
  unfold readRecord
  rw [run_bind_ok (run_query _ w)]
  simp only [hread]
  rfl

/-- Record `r` holds `bytes` where reading it finds them: the directories on the way are there
and no link is in the way. -/
def RecordHolds (s : StateStore) (r : Record) (bytes : ByteArray) (w : World) : Prop :=
  s.Sound w.files w.cwd ∧ (∃ md, w.files.lookup (s.fileLoc w.cwd r.fileName) = some (.file bytes md)) ∧
    w.files.DirChain (s.base w.cwd) s.names

theorem RecordHolds.of_logOnly {r : Record} {bytes : ByteArray} (h : w.LogOnly w')
    (hr : s.RecordHolds r bytes w) : s.RecordHolds r bytes w' := by
  unfold World.LogOnly at h
  rw [h]
  exact hr

theorem RecordHolds.readRecord_run (hs : s.Plain) {r : Record} {bytes : ByteArray}
    (h : s.RecordHolds r bytes w) : (s.readRecord r).run w = (.ok (some bytes), w) := by
  obtain ⟨hsound, ⟨md, hl⟩, hchain⟩ := h
  exact readRecord_run_of_lookup hs hsound hl hchain

/-- **A successful record write leaves the bytes where reading the record finds them.** -/
theorem writeRecord_holds (hs : s.Plain) {r : Record} {bytes : ByteArray}
    (h : (s.writeRecord r bytes).run w = (.ok (), w')) (hsound : s.Sound w.files w.cwd) :
    s.RecordHolds r bytes w' := by
  unfold writeRecord recordPath at h
  rcases hw : (s.writeAtomic (Path.join s.dir r.fileName) bytes).run w with ⟨_ | _, w₁⟩
  · rw [run_bind_error hw] at h
    cases h
  rw [run_bind_ok hw] at h
  have hsound₁ : s.Sound w₁.files w₁.cwd := by
    have := (writeAtomic_within hs r.plainName bytes w).sound hsound
    rwa [hw] at this
  obtain ⟨hcwd, hl, hchain⟩ := writeAtomic_lands hs r.plainName hw hsound
  obtain ⟨w₂, hlog, hlo⟩ := run_debug ("Wrote record " ++ r.fileName ++ " (" ++
    toString bytes.size ++ " bytes)") w₁
  rw [hlog] at h
  cases h
  exact .of_logOnly hlo ⟨hsound₁, ⟨0o600, hcwd ▸ hl⟩, hcwd ▸ hchain⟩

end Store.StateStore

namespace Store.MachineIdentity

open Store.StateStore

variable {s : StateStore} {w w' : World}

/-- Generating an identifier draws a UUID from the random source and moves nothing but it. -/
theorem generate_run (w : World) : ∃ bytes w', generate.run w = (.ok ⟨uuidOfBytes bytes⟩, w') ∧
    w'.files = w.files ∧ w'.cwd = w.cwd ∧ w'.service = w.service := by
  unfold generate
  rw [run_bind_ok (run_random128 w)]
  refine ⟨_, _, rfl, ?_⟩
  -- reduce the projections first: comparing the worlds whole would compute the drawn entropy
  dsimp only
  exact ⟨rfl, rfl, rfl⟩

theorem random128_stay : Within s.MarkersStay random128 := by
  intro w
  -- reduce the projections first: comparing the drawn entropy with the old one is costly
  rw [run_random128]
  dsimp only
  exact MarkersStay.of_eq rfl rfl rfl

/-- **Resolving the machine identifier keeps every registration marker as it was.** -/
theorem resolve_stay (hs : s.Plain) (regenerate : Bool) :
    Within s.MarkersStay (resolve s regenerate) :=
  resolve_within_of s (deleteRecord_stay hs _) random128_stay (writeRecord_stay hs _)
    fun _ _ => stay_of_logOnly (logOnly_log _ _)

/-- **Regenerating the machine identifier leaves the new one in its record**, and the new one is
a UUID drawn from the random source. -/
theorem resolve_regenerate_record (hs : s.Plain) (hsound : s.Sound w.files w.cwd)
    {id : MachineIdentity} (h : (resolve s true).run w = (.ok id, w')) :
    s.RecordHolds .machineId id.text.toUTF8 w' ∧ ∃ bytes, id.text = uuidOfBytes bytes := by
  simp only [resolve, ↓reduceIte] at h
  rcases hdel : (s.deleteRecord .machineId).run w with ⟨_ | _, w₁⟩
  · rw [run_bind_error hdel] at h
    cases h
  rw [run_bind_ok hdel] at h
  have hsound₁ : s.Sound w₁.files w₁.cwd := by
    have := (deleteRecord_within (A := fun _ => False) (s := s) .machineId w).sound hsound
    rwa [hdel] at this
  obtain ⟨bytes, w₂, hgen, hf, hc, -⟩ := generate_run w₁
  have hsound₂ : s.Sound w₂.files w₂.cwd := by
    rw [hf, hc]
    exact hsound₁
  rw [run_bind_ok hgen] at h
  rcases hwr : (s.writeRecord .machineId (uuidOfBytes bytes).toUTF8).run w₂ with ⟨_ | _, w₃⟩
  · rw [run_bind_error hwr] at h
    cases h
  rw [run_bind_ok hwr] at h
  have hholds := writeRecord_holds hs hwr hsound₂
  obtain ⟨w₄, hinfo, hlo⟩ := run_info ("Generated new machine id " ++ uuidOfBytes bytes) w₃
  rw [run_bind_ok hinfo] at h
  simp only [run_pure, Prod.mk.injEq, Except.ok.injEq] at h
  obtain ⟨rfl, rfl⟩ := h
  exact ⟨hholds.of_logOnly hlo, bytes, rfl⟩

/-- The triple form, from a tree where both markers are absent: they stay absent. -/
theorem resolve_regenerate_triple (hs : s.Plain) :
    Triple (fun w => s.Absent .registered w ∧ s.Absent .unregistered w) (resolve s true)
      (fun id w => s.Absent .registered w ∧ s.Absent .unregistered w ∧
        s.RecordHolds .machineId id.text.toUTF8 w ∧ ∃ bytes, id.text = uuidOfBytes bytes)
      (fun _ => True) := by
  rintro w ⟨hr, hu⟩
  have hstep := resolve_within hs true w
  rcases h : (resolve s true).run w with ⟨_ | ident, w'⟩
  · trivial
  · rw [h] at hstep
    exact ⟨hstep.absent rfl id hr, hstep.absent rfl id hu, resolve_regenerate_record hs hr.1 h⟩

end Store.MachineIdentity

end HostAgent
