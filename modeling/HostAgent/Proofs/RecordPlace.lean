import HostAgent.Proofs.IdentityRecord
import HostAgent.Proofs.StepFrames

/-!
# `Proofs.RecordPlace` — what keeps the `machine-id` record in place

Reading the identifier rests on a few locations: the directories on the state directory's path
and the record's own place (`RecordWatched`). A step keeps the record (`RecordKept`) when whatever
node that place holds stays bound there, under the same directories; with the network left alone
it is `Steady`. An atomic write of another file of the state directory, a removal of one, and the
marker writes are steady (`writeAtomic_recordKept`, `writeMarker_steady`), so a record that reads
as an identifier before such steps reads as it after them (`HoldsAt.of_steady`), provided its
place holds no link: a link could lead to a file those steps rewrite.

`resolve_holdsAt` is where the identifier comes from: a resolution that succeeds leaves it at the
record's place, as a node other than a link.
-/

namespace HostAgent

open HostAgent.Host HostAgent.Host.FileTree HostAgent.Store Agent

namespace Store.StateStore

variable {s : StateStore} {t t₁ t₂ t₃ t' : FileTree} {cwd : Location} {w w' : World} {name : String}

/-! ## The record's place

No other file of the state directory stands at the record's place or above a directory it rests
on, so writing one keeps every binding the record rests on. -/

/-- A file of the state directory other than the `machine-id` record. -/
structure BesideRecord (name : String) : Prop where
  plain : Path.PlainName name
  ne_record : name ≠ Record.machineId.fileName

theorem besideRecord_marker (m : Marker) : BesideRecord m.fileName :=
  ⟨m.plainName, by cases m <;> decide⟩

theorem besideRecord_lastUploadResults : BesideRecord Record.lastUploadResults.fileName :=
  ⟨Record.plainName _, by decide⟩

theorem TempName.besideRecord {n : String} (h : TempName n) : BesideRecord n := by
  refine ⟨h.otherName.plain, fun heq => ?_⟩
  obtain ⟨picks, -, rfl⟩ := h
  have hl := congrArg String.toList heq
  rw [toList_tmp] at hl
  cases hl

/-- The locations that reading the `machine-id` record rests on: the directories of the state
directory's path and the record's own. -/
def RecordWatched (s : StateStore) (cwd : Location) (l : Location) : Prop :=
  OnPath (s.base cwd) s.names l ∨ l = s.fileLoc cwd Record.machineId.fileName

theorem RecordWatched.ne_nil {l : Location} (hl : s.RecordWatched cwd l) : l ≠ [] := by
  rcases hl with hp | rfl
  · exact onPath_ne_nil hp
  · exact fileLoc_ne_nil s cwd _

/-- **No location the record rests on is at or below another file of the state directory.** -/
theorem not_fileLoc_prefix_recordWatched (hn : BesideRecord name) {l : Location}
    (hl : s.RecordWatched cwd l) : ¬ s.fileLoc cwd name <+: l := by
  intro hpre
  rcases hl with hpath | rfl
  · -- a location on the path is shorter than any file of the directory
    have hlen := (prefix_of_onPath hpath []).length_le
    have hlen' := hpre.length_le
    simp [fileLoc] at hlen hlen'
    omega
  · have heq : s.fileLoc cwd name = s.fileLoc cwd Record.machineId.fileName :=
      hpre.eq_of_length (by simp [fileLoc])
    simp [fileLoc] at heq
    exact hn.ne_record heq

/-- Every binding at a location the record rests on is still there. -/
def RecordLocsKept (s : StateStore) (cwd : Location) (t t' : FileTree) : Prop :=
  ∀ l, s.RecordWatched cwd l → ∀ node, t.lookup l = some node → t'.lookup l = some node

theorem RecordLocsKept.refl (t : FileTree) : s.RecordLocsKept cwd t t := fun _ _ _ h => h

theorem RecordLocsKept.trans (h₁ : s.RecordLocsKept cwd t₁ t₂) (h₂ : s.RecordLocsKept cwd t₂ t₃) :
    s.RecordLocsKept cwd t₁ t₃ :=
  fun l hl n h => h₂ l hl n (h₁ l hl n h)

theorem recordLocsKept_addsDirs (h : AddsDirs t t') : s.RecordLocsKept cwd t t' :=
  fun _ hl _ hn => lookup_of_addsDirs h hl.ne_nil hn

theorem recordLocsKept_insert (hn : BesideRecord name) (node : Node) :
    s.RecordLocsKept cwd t (t.insert (s.fileLoc cwd name) node) := by
  intro l hl n' h
  rw [lookup_insert _ _ _ hl.ne_nil, if_neg]
  · exact h
  · rintro rfl
    exact not_fileLoc_prefix_recordWatched hn hl (List.prefix_refl _)

theorem recordLocsKept_erase (hn : BesideRecord name) :
    s.RecordLocsKept cwd t (t.erase (s.fileLoc cwd name)) := by
  intro l hl n' h
  rw [lookup_erase _ _ hl.ne_nil, if_neg]
  · exact h
  · rintro rfl
    exact not_fileLoc_prefix_recordWatched hn hl (List.prefix_refl _)

theorem recordLocsKept_move {a b : String} (ha : BesideRecord a) (hb : BesideRecord b) :
    s.RecordLocsKept cwd t (t.move (s.fileLoc cwd a) (s.fileLoc cwd b)) := by
  intro l hl n' h
  rw [lookup_move t hl.ne_nil (not_fileLoc_prefix_recordWatched ha hl)
    (not_fileLoc_prefix_recordWatched hb hl)]
  exact h

/-- Renaming one other file of the state directory onto another keeps the record's place. -/
theorem recordLocsKept_rename (hs : s.Plain) {a b : String} (ha : BesideRecord a)
    (hb : BesideRecord b) (hsound : s.Sound t cwd)
    (h : t.rename cwd (Path.join s.dir a) (Path.join s.dir b) = .ok t') :
    s.RecordLocsKept cwd t t' := by
  obtain ⟨src, dst, hrs, hrd, ⟨-, rfl⟩ | ⟨-, rfl⟩⟩ := rename_eq_ok h
  · exact .refl _
  obtain ⟨rfl, -⟩ := (resolve_join_eq_ok hs ha.plain hsound.pathLinkFree (by simp)).mp hrs
  obtain ⟨rfl, -⟩ := (resolve_join_eq_ok hs hb.plain hsound.pathLinkFree (by simp)).mp hrd
  exact recordLocsKept_move ha hb

/-! ## A node at the record's place -/

/-- `node` is bound at the `machine-id` record's place, under the directories of the state
directory's path, in a sound tree. -/
def RecordAt (s : StateStore) (node : Node) (w : World) : Prop :=
  s.Sound w.files w.cwd ∧ w.files.lookup (s.fileLoc w.cwd Record.machineId.fileName) = some node ∧
    w.files.DirChain (s.base w.cwd) s.names

theorem RecordAt.of_locsKept {node : Node} (hcwd : w'.cwd = w.cwd)
    (hsound : s.Sound w'.files w'.cwd) (hk : s.RecordLocsKept w.cwd w.files w'.files)
    (h : s.RecordAt node w) : s.RecordAt node w' := by
  obtain ⟨-, hl, hchain⟩ := h
  refine ⟨hsound, ?_, ?_⟩
  · rw [hcwd]
    exact hk _ (.inr rfl) _ hl
  · rw [hcwd]
    intro l hl'
    obtain ⟨m, hm⟩ := hchain l hl'
    exact ⟨m, hk l (.inl hl') _ hm⟩

/-- Following the record's path ends at the node bound at its place. -/
theorem stat_recordAt (hs : s.Plain) {node : Node} (hn : ∀ target, node ≠ .link target)
    (h : s.RecordAt node w) : w.files.stat w.cwd (s.recordPath .machineId) = .ok node := by
  obtain ⟨hsound, hl, hchain⟩ := h
  have hres : w.files.resolve w.cwd (s.recordPath .machineId) true =
      .ok (s.fileLoc w.cwd Record.machineId.fileName) :=
    (resolve_join_eq_ok hs Record.machineId.plainName hsound.pathLinkFree
      (fun _ target hlink => hn target (Option.some.inj (hl.symm.trans hlink)))).mpr ⟨rfl, hchain⟩
  simp [stat, hres, hl, bind, Except.bind, pure, Except.pure]

/-- **Two worlds with one node at the record's place read the record alike.** -/
theorem readFile_eq_of_recordAt (hs : s.Plain) {node : Node} (hn : ∀ target, node ≠ .link target)
    (h : s.RecordAt node w) (h' : s.RecordAt node w') :
    w'.files.readFile w'.cwd (s.recordPath .machineId) =
      w.files.readFile w.cwd (s.recordPath .machineId) := by
  simp only [readFile, stat_recordAt hs hn h, stat_recordAt hs hn h']

/-- A record read through directories only, and not through a link at its place, is a node at
its place. -/
theorem recordAt_of_holds (hs : s.Plain) (hsound : s.Sound w.files w.cwd)
    (hnolink : ∀ target, w.files.lookup (s.fileLoc w.cwd Record.machineId.fileName) ≠ some (.link target))
    {id : MachineIdentity} (hh : s.Holds id w) : ∃ node, s.RecordAt node w ∧ ∀ target, node ≠ .link target := by
  obtain ⟨bytes, hread, -⟩ := hh
  unfold readFile stat recordPath at hread
  rcases hres : w.files.resolve w.cwd (Path.join s.dir Record.machineId.fileName) true with e | loc
  · simp [hres, bind, Except.bind] at hread
  obtain ⟨rfl, hchain⟩ := (resolve_join_eq_ok hs Record.machineId.plainName hsound.pathLinkFree
    (fun _ => hnolink)).mp hres
  rcases hl : w.files.lookup (s.fileLoc w.cwd Record.machineId.fileName) with _ | node
  · simp [hres, hl, bind, Except.bind] at hread
  · exact ⟨node, ⟨hsound, hl, hchain⟩, fun target heq => hnolink target (heq ▸ hl)⟩

/-- From `w` to `w'` whatever node the record's place holds stays there. -/
def RecordKept (s : StateStore) (w w' : World) : Prop :=
  ∀ node, s.RecordAt node w → s.RecordAt node w'

namespace RecordKept

variable {w₁ w₂ w₃ : World}

theorem refl (w : World) : s.RecordKept w w := fun _ h => h

theorem trans (h₁ : s.RecordKept w₁ w₂) (h₂ : s.RecordKept w₂ w₃) : s.RecordKept w₁ w₃ :=
  fun n h => h₂ n (h₁ n h)

theorem of_eq (hf : w'.files = w.files) (hc : w'.cwd = w.cwd) : s.RecordKept w w' := by
  intro node h
  unfold RecordAt
  rw [hf, hc]
  exact h

theorem of_logOnly (h : w.LogOnly w') : s.RecordKept w w' := by
  unfold World.LogOnly at h
  exact of_eq (by rw [h]) (by rw [h])

end RecordKept

/-! ## Writes beside the record -/

/-- **An atomic write of another file of the state directory keeps the record's place**: the
directories it makes, the temporary file and the closing rename touch neither the record's
place nor a directory above it, and a write that fails leaves at most the directories. -/
theorem writeAtomic_recordKept (hs : s.Plain) (hname : BesideRecord name) (bytes : ByteArray) :
    Within s.RecordKept (s.writeAtomic (Path.join s.dir name) bytes) := by
  intro w node hrec
  have hstep := writeAtomic_within hs hname.plain bytes w
  refine hrec.of_locsKept hstep.cwd_eq (hstep.sound hrec.1) ?_
  have hout := writeAtomic_outcome hs hrec.1.pathLinkFree (Path.join s.dir name) bytes w rfl
  rcases hrun : (s.writeAtomic (Path.join s.dir name) bytes).run w with ⟨_ | _, w'⟩ <;>
    rw [hrun] at hout
  · obtain ⟨t, E, rfl | hdirs, rfl⟩ := hout
    · exact .refl _
    · exact recordLocsKept_addsDirs (mkdirAllWith_eq_ok _ _ hdirs)
  · obtain ⟨n, p, t', ⟨t, E, hdirs, hn, -, hchain, rfl⟩, hren, rfl⟩ := hout
    have hsound₁ :=
      ((onlyAppear_mkdirAll hdirs : s.OnlyAppear w.cwd (fun _ => True) _ _) hrec.1).1
    have hready := tmpReady_insert hn.otherName hsound₁ hchain bytes 0o600
    exact (recordLocsKept_addsDirs (mkdirAllWith_eq_ok _ _ hdirs)).trans
      ((recordLocsKept_insert hn.besideRecord _).trans
        (recordLocsKept_rename hs hn.besideRecord hname hready.1 hren))

theorem removeIfExists_recordKept (hs : s.Plain) (hname : BesideRecord name) :
    Within s.RecordKept (removeIfExists (Path.join s.dir name)) := by
  intro w node hrec
  have hstep := removeIfExists_within (s := s) (A := fun _ => False) (Path.join s.dir name) w
  refine hrec.of_locsKept hstep.cwd_eq (hstep.sound hrec.1) ?_
  unfold removeIfExists
  rcases h : w.files.removeFile w.cwd (Path.join s.dir name) with e | t
  · rw [run_bind_ok (run_attempt_error h)]
    -- a failed removal changes nothing, whatever is made of the error
    split <;> exact .refl _
  · rw [run_bind_ok (run_attempt_ok h)]
    obtain ⟨loc, _, hr, -, -, rfl⟩ := removeFile_eq_ok h
    obtain ⟨rfl, -⟩ := (resolve_join_eq_ok hs hname.plain hrec.1.pathLinkFree (by simp)).mp hr
    exact recordLocsKept_erase hname

/-! ## Steady steps -/

/-- A step that keeps the record's place and leaves the network alone. -/
def Steady (s : StateStore) (w w' : World) : Prop :=
  s.RecordKept w w' ∧ w'.network = w.network

namespace Steady

variable {w₁ w₂ w₃ : World}

theorem refl (w : World) : s.Steady w w := ⟨.refl w, rfl⟩

theorem trans (h₁ : s.Steady w₁ w₂) (h₂ : s.Steady w₂ w₃) : s.Steady w₁ w₃ :=
  ⟨h₁.1.trans h₂.1, h₂.2.trans h₁.2⟩

instance : Std.Refl s.Steady := ⟨refl⟩

instance : Trans s.Steady s.Steady s.Steady := ⟨trans⟩

theorem of_logOnly (h : w.LogOnly w') : s.Steady w w' :=
  ⟨.of_logOnly h, by unfold World.LogOnly at h; rw [h]⟩

end Steady

theorem steady_of {α : Type} {act : Agent α} (hr : Within s.RecordKept act)
    (hh : Within World.HostOnly act) : Within s.Steady act :=
  fun w => ⟨hr w, (hh w).network_eq⟩

theorem steady_of_logOnly {α : Type} {act : Agent α} (h : Within World.LogOnly act) :
    Within s.Steady act :=
  fun w => .of_logOnly (h w)

theorem log_steady (l : Level) (m : String) : Within s.Steady (log l m) :=
  steady_of_logOnly (logOnly_log l m)


theorem deleteMarker_steady (hs : s.Plain) (m : Marker) : Within s.Steady (s.deleteMarker m) :=
  steady_of (removeIfExists_recordKept hs (besideRecord_marker m)) (removeIfExists_hostOnly _)

theorem writeMarker_steady (hs : s.Plain) (m : Marker) : Within s.Steady (s.writeMarker m) :=
  s.writeMarker_within_of (fun other _ => deleteMarker_steady hs other)
    (fun _ => steady_of (writeAtomic_recordKept hs (besideRecord_marker m) _)
      (writeAtomic_hostOnly _ _ _))
    log_steady

theorem writeRecord_steady (hs : s.Plain) {r : Record} (hr : BesideRecord r.fileName)
    (bytes : ByteArray) : Within s.Steady (s.writeRecord r bytes) :=
  Within.bind (steady_of (writeAtomic_recordKept hs hr _) (writeAtomic_hostOnly _ _ _)) fun _ =>
    log_steady _ _


/-! ## A record that reads as an identifier -/

/-- A record's place holding a node, not a link, that reads as `id`. -/
def HoldsAt (s : StateStore) (id : MachineIdentity) (w : World) : Prop :=
  ∃ node, s.RecordAt node w ∧ (∀ target, node ≠ .link target) ∧ s.Holds id w

theorem HoldsAt.holds {id : MachineIdentity} (h : s.HoldsAt id w) : s.Holds id w := by
  obtain ⟨_, -, -, hh⟩ := h
  exact hh

theorem HoldsAt.of_logOnly {id : MachineIdentity} (hl : w.LogOnly w') (h : s.HoldsAt id w) :
    s.HoldsAt id w' := by
  unfold World.LogOnly at hl
  rw [hl]
  exact h

/-- A record's place where a step keeps its node and the network reads as before. -/
theorem HoldsAt.of_steady (hs : s.Plain) {id : MachineIdentity} (hst : s.Steady w w')
    (h : s.HoldsAt id w) : s.HoldsAt id w' := by
  obtain ⟨node, hat, hlink, bytes, hread, htext⟩ := h
  have hat' := hst.1 node hat
  exact ⟨node, hat', hlink, bytes, (readFile_eq_of_recordAt hs hlink hat hat').trans hread, htext⟩

theorem RecordHolds.holdsAt {id : MachineIdentity} (hr : s.RecordHolds .machineId id.text.toUTF8 w)
    (hh : s.Holds id w) : s.HoldsAt id w := by
  obtain ⟨hsound, ⟨md, hl⟩, hchain⟩ := hr
  exact ⟨_, ⟨hsound, hl, hchain⟩, fun _ => nofun, hh⟩

/-- No symbolic link stands at the `machine-id` record's place. -/
def NoLinkAtRecord (s : StateStore) (w : World) : Prop :=
  ∀ target, w.files.lookup (s.fileLoc w.cwd Record.machineId.fileName) ≠ some (.link target)

/-- **A resolution that succeeds leaves its identifier at the record's place**: the new one when
it regenerates; otherwise, without a link at the record's place, the identifier already there or
a new one. -/
theorem resolve_holdsAt (hs : s.Plain) (hsound : s.Sound w.files w.cwd) {regenerate : Bool}
    (hnolink : regenerate = false → s.NoLinkAtRecord w) {id : MachineIdentity}
    (h : (MachineIdentity.resolve s regenerate).run w = (.ok id, w')) : s.HoldsAt id w' := by
  cases regenerate with
  | true =>
    obtain ⟨hrec, hheld, -⟩ := MachineIdentity.holds_of_regenerate hs hsound h
    exact hrec.holdsAt hheld
  | false =>
    -- the record's load reads nothing, an identifier or a fault, and changes nothing
    rcases hl : ((MachineIdentity.load s).run w).1 with e | _ | id₀
    · have hload : (MachineIdentity.load s).run w = (.error e, w) :=
        Prod.ext hl (MachineIdentity.load_world w)
      unfold MachineIdentity.resolve at h
      simp only [Bool.false_eq_true, ↓reduceIte] at h
      rw [run_bind_error hload] at h
      cases h
    · obtain ⟨hrec, hheld, -⟩ := MachineIdentity.resolve_fresh hs hsound
        (Prod.ext hl (MachineIdentity.load_world w)) h
      exact hrec.holdsAt hheld
    · have hheld := MachineIdentity.load_some_iff.mp hl
      obtain ⟨w₁, h₁, hlo⟩ := MachineIdentity.resolve_held hheld
      rw [h₁] at h
      simp only [Prod.mk.injEq, Except.ok.injEq] at h
      obtain ⟨rfl, rfl⟩ := h
      obtain ⟨node, hat, hlink⟩ := recordAt_of_holds hs hsound (hnolink rfl) hheld
      exact HoldsAt.of_logOnly hlo ⟨node, hat, hlink, hheld⟩

/-! ## Before a run registers -/

/-- What a legacy run needs of the world before it registers: a sound state directory, no link
at the record's place, and nothing received since the server's `k`-th request. -/
def Ready (s : StateStore) (k : Nat) (w : World) : Prop :=
  s.Sound w.files w.cwd ∧ s.NoLinkAtRecord w ∧ w.network.received.size = k

theorem clearRegistration_steady (hs : s.Plain) : Within s.Steady s.clearRegistration :=
  Within.bind (deleteMarker_steady hs _) fun _ => deleteMarker_steady hs _

/-- Dropping the markers leaves the random source where it was. -/
theorem clearRegistration_entropy (w : World) : (s.clearRegistration.run w).2.entropy = w.entropy := by
  have hdel : ∀ m w, ((s.deleteMarker m).run w).2.entropy = w.entropy := fun m w =>
    MachineIdentity.removeIfExists_entropy _ w
  unfold clearRegistration
  rcases h₁ : (s.deleteMarker .registered).run w with ⟨_ | _, w₁⟩
  · rw [run_bind_error h₁]
    have hkeep := hdel .registered w
    rw [h₁] at hkeep
    exact hkeep
  · rw [run_bind_ok h₁]
    have hkeep := hdel .registered w
    rw [h₁] at hkeep
    rw [hdel, hkeep]

end Store.StateStore

end HostAgent
