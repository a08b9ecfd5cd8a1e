import HostAgent.Proofs.PathPieces
import HostAgent.Proofs.FileTreeFrame
import HostAgent.Proofs.Agent
import HostAgent.Store.Basic

/-!
# `Proofs.MarkerFiles` — where the registration markers live, and what can make one appear

A state directory named without `..` (`StateStore.Plain`) keeps its files at fixed locations:
`fileLoc cwd name`, the names of its path spelled from the working directory. The store only
ever sees the registration markers through `FileTree.isFile`, which resolves the marker's path;
whether that agrees with the file bound at `fileLoc` depends on the tree, and `Sound` says when:

* no directory on the state directory's path and neither registration marker is a link;
* a registration marker file stands only at the end of a chain of directories.

Under `Sound`, **a registration marker is present exactly when a file is bound at its
location** (`isFile_markerPath_iff`). Every later question about markers is then a question
about two lookups, and each change of the tree the agent makes is classified by
`MarkersShrink`: the directory stays sound and no registration marker appears. Erasing
anything, adding directories where nothing was, and changing locations off the state
directory's path all shrink the markers.
-/

namespace HostAgent.Store

open HostAgent.Host HostAgent.Host.FileTree

theorem Marker.plainName (m : Marker) : Path.PlainName m.fileName := by
  cases m <;> exact ⟨by decide, by decide, by decide, by decide⟩

theorem Marker.fileName_inj {m m' : Marker} (h : m.fileName = m'.fileName) : m = m' := by
  cases m <;> cases m' <;> first | rfl | exact absurd h (by decide)

theorem Record.plainName (r : Record) : Path.PlainName r.fileName := by
  cases r <;> exact ⟨by decide, by decide, by decide, by decide⟩

/-- The registration markers: the two that exclude each other. -/
def Marker.IsRegistration (m : Marker) : Prop := m.exclusiveWith.isSome

/-- A file is bound at `l`. -/
def IsFileAt (t : FileTree) (l : Location) : Prop := ∃ data mode, t.lookup l = some (.file data mode)

namespace StateStore

variable {s : StateStore} {t t' : FileTree} {cwd : Location}

/-- The state directory is named without `..`. -/
def Plain (s : StateStore) : Prop := ".." ∉ Path.pieces s.dir

/-- Where the state directory's path starts from the working directory `cwd`. -/
def base (s : StateStore) (cwd : Location) : Location :=
  if Path.isAbsolute s.dir then [] else cwd

/-- The names the state directory's path goes down. -/
def names (s : StateStore) : List String := (Path.pieces s.dir).filter (· != ".")

/-- The location the file `name` of the state directory has, read off the path. -/
def fileLoc (s : StateStore) (cwd : Location) (name : String) : Location :=
  s.base cwd ++ s.names ++ [name]

theorem fileLoc_ne_nil (s : StateStore) (cwd : Location) (name : String) :
    s.fileLoc cwd name ≠ [] := by
  simp [fileLoc]

/-- Resolving a file of the state directory walks the directory's pieces, then the name. -/
theorem resolve_join (s : StateStore) {name : String} (hname : Path.PlainName name)
    (t : FileTree) (cwd : Location) (fl : Bool) :
    t.resolve cwd (Path.join s.dir name) fl =
      t.walk fl maxLinks (s.base cwd) (Path.pieces s.dir ++ [name]) := by
  have hne : (Path.join s.dir name).isEmpty = false := by
    obtain ⟨pre, hpre⟩ := Path.exists_toList_join s.dir hname
    rw [Bool.eq_false_iff, ne_eq, String.isEmpty_iff]
    intro h
    rw [h] at hpre
    exact hname.nonempty (List.eq_nil_of_append_eq_nil hpre.symm).2
  simp only [resolve, hne, Bool.false_eq_true, ↓reduceIte, Path.isAbsolute_join s.dir hname,
    Path.steps_join s.dir hname, base]

/-- **Where a file of a plain state directory resolves**, when no directory on the way is a
link: to its location, exactly when every directory on the way is there. -/
theorem resolve_join_eq_ok (hs : s.Plain) {name : String} (hname : Path.PlainName name)
    {fl : Bool} {loc : Location} (hfree : t.LinkFree (s.base cwd) s.names)
    (hlast : fl = true → ∀ target, t.lookup (s.fileLoc cwd name) ≠ some (.link target)) :
    t.resolve cwd (Path.join s.dir name) fl = .ok loc ↔
      loc = s.fileLoc cwd name ∧ t.DirChain (s.base cwd) s.names := by
  rw [resolve_join s hname]
  exact walk_down_iff ⟨hname.not_here, hname.not_up⟩ _ _ _ hs hfree hlast

/-- **A sound state directory**, in tree `t` seen from `cwd`. -/
structure Sound (s : StateStore) (t : FileTree) (cwd : Location) : Prop where
  /-- No directory on the state directory's path is a link. -/
  pathLinkFree : t.LinkFree (s.base cwd) s.names
  /-- Neither registration marker is a link. -/
  markerNotLink : ∀ m : Marker, m.IsRegistration →
    ∀ target, t.lookup (s.fileLoc cwd m.fileName) ≠ some (.link target)
  /-- A registration marker file stands at the end of a chain of directories. -/
  chainOfMarker : ∀ m : Marker, m.IsRegistration →
    IsFileAt t (s.fileLoc cwd m.fileName) → t.DirChain (s.base cwd) s.names

/-- **A registration marker is present exactly when a file is bound at its location.** -/
theorem isFile_markerPath_iff (hs : s.Plain) (hsound : s.Sound t cwd) {m : Marker}
    (hm : m.IsRegistration) :
    t.isFile cwd (s.markerPath m) = true ↔ IsFileAt t (s.fileLoc cwd m.fileName) := by
  have hres : ∀ loc, t.resolve cwd (Path.join s.dir m.fileName) true = .ok loc ↔
      loc = s.fileLoc cwd m.fileName ∧ t.DirChain (s.base cwd) s.names := fun _ =>
    resolve_join_eq_ok hs m.plainName hsound.pathLinkFree (fun _ => hsound.markerNotLink m hm)
  unfold isFile stat markerPath
  constructor
  · intro h
    rcases hr : t.resolve cwd (Path.join s.dir m.fileName) true with e | loc
    · simp [hr, bind, Except.bind] at h
    · obtain ⟨rfl, -⟩ := (hres loc).mp hr
      simp only [hr, bind, Except.bind] at h
      rcases hl : t.lookup (s.fileLoc cwd m.fileName) with _ | n
      · simp [hl] at h
      · cases n with
        | file data mode => exact ⟨data, mode, hl⟩
        | dir mode => simp [hl, pure, Except.pure, Node.isFile] at h
        | link target => simp [hl, pure, Except.pure, Node.isFile] at h
        | device d => simp [hl, pure, Except.pure, Node.isFile] at h
  · rintro ⟨data, mode, hfile⟩
    have hr := (hres _).mpr ⟨rfl, hsound.chainOfMarker m hm ⟨data, mode, hfile⟩⟩
    simp [hr, bind, Except.bind, hfile, pure, Except.pure, Node.isFile]

/-! ## Changes of the tree -/

/-- The locations whose bindings decide the registration markers: those on the state
directory's path and the two markers' own. -/
def Watched (s : StateStore) (cwd : Location) (l : Location) : Prop :=
  OnPath (s.base cwd) s.names l ∨ ∃ m : Marker, m.IsRegistration ∧ l = s.fileLoc cwd m.fileName

/-- From `t` to `t'` the state directory stays sound, and no registration marker outside `A`
appears. -/
def OnlyAppear (s : StateStore) (cwd : Location) (A : Marker → Prop) (t t' : FileTree) : Prop :=
  s.Sound t cwd → s.Sound t' cwd ∧ ∀ m : Marker, m.IsRegistration → ¬ A m →
    IsFileAt t' (s.fileLoc cwd m.fileName) → IsFileAt t (s.fileLoc cwd m.fileName)

namespace OnlyAppear

variable {A : Marker → Prop}

theorem refl (t : FileTree) : s.OnlyAppear cwd A t t := fun h => ⟨h, fun _ _ _ hf => hf⟩

theorem trans {t₁ t₂ t₃ : FileTree} (h₁ : s.OnlyAppear cwd A t₁ t₂) (h₂ : s.OnlyAppear cwd A t₂ t₃) :
    s.OnlyAppear cwd A t₁ t₃ := by
  intro hsound
  obtain ⟨hsound₂, hmono₁⟩ := h₁ hsound
  obtain ⟨hsound₃, hmono₂⟩ := h₂ hsound₂
  exact ⟨hsound₃, fun m hm hA hf => hmono₁ m hm hA (hmono₂ m hm hA hf)⟩

/-- Only registration markers count: `A` and `B` need to agree on those alone. -/
theorem mono {B : Marker → Prop} (h : s.OnlyAppear cwd A t t')
    (hAB : ∀ m, m.IsRegistration → A m → B m) : s.OnlyAppear cwd B t t' := by
  intro hsound
  obtain ⟨hsound', hmono⟩ := h hsound
  exact ⟨hsound', fun m hm hB hf => hmono m hm (fun hA => hB (hAB m hm hA)) hf⟩

end OnlyAppear

/-- **A change that keeps every watched binding** keeps the markers as they were. -/
theorem onlyAppear_of_agree {A : Marker → Prop} (h : ∀ l, s.Watched cwd l → t'.lookup l = t.lookup l) :
    s.OnlyAppear cwd A t t' := by
  have hpath : ∀ l, OnPath (s.base cwd) s.names l → t'.lookup l = t.lookup l :=
    fun l hl => h l (.inl hl)
  have hmark : ∀ m : Marker, m.IsRegistration →
      t'.lookup (s.fileLoc cwd m.fileName) = t.lookup (s.fileLoc cwd m.fileName) :=
    fun m hm => h _ (.inr ⟨m, hm, rfl⟩)
  intro hsound
  refine ⟨⟨?_, ?_, ?_⟩, ?_⟩
  · intro l hl target
    rw [hpath l hl]
    exact hsound.pathLinkFree l hl target
  · intro m hm target
    rw [hmark m hm]
    exact hsound.markerNotLink m hm target
  · intro m hm hf
    rw [dirChain_congr hpath]
    exact hsound.chainOfMarker m hm (by rwa [IsFileAt, ← hmark m hm])
  · intro m hm _ hf
    rwa [IsFileAt, ← hmark m hm]

/-- **Removing bindings shrinks the markers**, when a directory never loses its binding
without everything below it losing theirs. -/
theorem onlyAppear_of_restrict {A : Marker → Prop}
    (hsub : ∀ l, t'.lookup l = t.lookup l ∨ t'.lookup l = none)
    (hdir : ∀ l l', l <+: l' → (∃ m, t.lookup l = some (.dir m)) → t'.lookup l = none →
      t'.lookup l' = none) :
    s.OnlyAppear cwd A t t' := by
  -- a binding that survives is the old one
  have hkeep : ∀ l n, t'.lookup l = some n → t.lookup l = some n := by
    intro l n hl
    rcases hsub l with h | h
    · rwa [← h]
    · rw [h] at hl
      cases hl
  intro hsound
  refine ⟨⟨?_, ?_, ?_⟩, ?_⟩
  · intro l hl target hlink
    exact hsound.pathLinkFree l hl target (hkeep _ _ hlink)
  · intro m hm target hlink
    exact hsound.markerNotLink m hm target (hkeep _ _ hlink)
  · rintro m hm ⟨data, mode, hf⟩ l hl
    obtain ⟨md, hd⟩ := hsound.chainOfMarker m hm ⟨data, mode, hkeep _ _ hf⟩ l hl
    rcases hsub l with h | h
    · exact ⟨md, h ▸ hd⟩
    · -- the directory lost its binding, so the marker below it did too
      have hgone := hdir l _ (prefix_of_onPath hl [m.fileName]) ⟨md, hd⟩ h
      rw [fileLoc] at hf
      rw [hgone] at hf
      cases hf
  · rintro m hm _ ⟨data, mode, hf⟩
    exact ⟨data, mode, hkeep _ _ hf⟩

/-- Unbinding a location that is not a directory shrinks the markers. -/
theorem onlyAppear_erase {A : Marker → Prop} {loc : Location} {n : Node}
    (hl : t.lookup loc = some n) (hn : n.isDir = false) : s.OnlyAppear cwd A t (t.erase loc) := by
  apply onlyAppear_of_restrict
  · intro l
    by_cases hnil : l = []
    · subst hnil
      exact .inl rfl
    · rw [lookup_erase _ _ hnil]
      split
      · exact .inr rfl
      · exact .inl rfl
  · rintro l l' - ⟨m, hm⟩ hgone
    by_cases hnil : l = []
    · subst hnil
      cases hgone
    · rw [lookup_erase _ _ hnil] at hgone
      split at hgone
      · rename_i hloc
        subst hloc
        rw [hl] at hm
        cases hm
        cases hn
      · rw [hm] at hgone
        cases hgone

/-- Unbinding a location and everything below it shrinks the markers. -/
theorem onlyAppear_eraseTree {A : Marker → Prop} (loc : Location) :
    s.OnlyAppear cwd A t (t.eraseTree loc) := by
  apply onlyAppear_of_restrict
  · intro l
    by_cases hnil : l = []
    · subst hnil
      exact .inl rfl
    · rw [lookup_eraseTree _ _ hnil]
      split
      · exact .inr rfl
      · exact .inl rfl
  · rintro l l' hll' ⟨m, hd⟩ hgone
    by_cases hnil : l = []
    · subst hnil
      cases hgone
    · rw [lookup_eraseTree _ _ hnil] at hgone
      split at hgone
      · rename_i hunder
        have hnil' : l' ≠ [] := fun h => hnil (List.prefix_nil.mp (h ▸ hll'))
        rw [lookup_eraseTree _ _ hnil', if_pos (hunder.trans hll')]
      · rw [hd] at hgone
        cases hgone

/-- A directory where nothing was bound shrinks the markers. -/
theorem onlyAppear_insertDir {A : Marker → Prop} {loc : Location} (mode : Nat)
    (hfresh : t.lookup loc = none) : s.OnlyAppear cwd A t (t.insert loc (.dir mode)) := by
  have hnil : loc ≠ [] := by
    rintro rfl
    cases hfresh
  -- the new binding is a directory where there was none
  have hview : ∀ l, (t.insert loc (.dir mode)).lookup l = t.lookup l ∨
      (l = loc ∧ (t.insert loc (.dir mode)).lookup l = some (.dir mode)) := by
    intro l
    by_cases hl : l = loc
    · subst hl
      exact .inr ⟨rfl, by rw [lookup_insert _ _ _ hnil, if_pos rfl]⟩
    · by_cases hl' : l = []
      · subst hl'
        exact .inl rfl
      · exact .inl (by rw [lookup_insert _ _ _ hl', if_neg hl])
  intro hsound
  refine ⟨⟨?_, ?_, ?_⟩, ?_⟩
  · intro l hl target hlink
    rcases hview l with h | ⟨-, h⟩ <;> rw [h] at hlink
    · exact hsound.pathLinkFree l hl target hlink
    · cases hlink
  · intro m hm target hlink
    rcases hview (s.fileLoc cwd m.fileName) with h | ⟨-, h⟩ <;> rw [h] at hlink
    · exact hsound.markerNotLink m hm target hlink
    · cases hlink
  · rintro m hm ⟨data, md, hf⟩ l hl
    rcases hview (s.fileLoc cwd m.fileName) with h | ⟨-, h⟩ <;> rw [h] at hf
    · obtain ⟨d, hd⟩ := hsound.chainOfMarker m hm ⟨data, md, hf⟩ l hl
      rcases hview l with h' | ⟨rfl, h'⟩
      · exact ⟨d, h' ▸ hd⟩
      · rw [hfresh] at hd
        cases hd
    · cases hf
  · rintro m hm _ ⟨data, md, hf⟩
    rcases hview (s.fileLoc cwd m.fileName) with h | ⟨-, h⟩ <;> rw [h] at hf
    · exact ⟨data, md, hf⟩
    · cases hf

/-- **Adding directories where nothing was shrinks the markers.** -/
theorem onlyAppear_of_addsDirs {A : Marker → Prop} (h : AddsDirs t t') : s.OnlyAppear cwd A t t' := by
  induction h with
  | refl t => exact .refl t
  | step loc mode fresh _ ih => exact (onlyAppear_insertDir mode fresh).trans ih

/-- `removeFile` of any path shrinks the markers. -/
theorem onlyAppear_removeFile {A : Marker → Prop} {path : String}
    (h : t.removeFile cwd path = .ok t') : s.OnlyAppear cwd A t t' := by
  obtain ⟨loc, n, -, hl, hn, rfl⟩ := removeFile_eq_ok h
  exact onlyAppear_erase hl hn

/-- `removeDirAll` of any path shrinks the markers. -/
theorem onlyAppear_removeDirAll {A : Marker → Prop} {path : String}
    (h : t.removeDirAll cwd path = .ok t') : s.OnlyAppear cwd A t t' := by
  obtain ⟨loc, -, ⟨target, hl, rfl⟩ | ⟨m, -, rfl⟩⟩ := removeDirAll_eq_ok h
  · exact onlyAppear_erase hl rfl
  · exact onlyAppear_eraseTree loc

/-- `mkdirAll` of any path shrinks the markers. -/
theorem onlyAppear_mkdirAll {A : Marker → Prop} {path : String} {mode : Nat}
    (h : t.mkdirAll cwd path mode = .ok t') : s.OnlyAppear cwd A t t' :=
  onlyAppear_of_addsDirs (mkdirAllWith_eq_ok _ _ h)

/-! ## Files of the state directory other than the registration markers -/

/-- A name of the state directory's files that is neither registration marker's. -/
structure OtherName (name : String) : Prop where
  plain : Path.PlainName name
  not_marker : ∀ m : Marker, m.IsRegistration → name ≠ m.fileName

/-- **No watched location is at or below another file of the state directory.** -/
theorem not_fileLoc_prefix_watched {name : String} (hname : OtherName name) {l : Location}
    (hl : s.Watched cwd l) : ¬ s.fileLoc cwd name <+: l := by
  intro hpre
  rcases hl with hpath | ⟨m, hm, rfl⟩
  · -- a location on the path is shorter than any file of the directory
    have hlen := (prefix_of_onPath hpath []).length_le
    have hlen' := hpre.length_le
    simp [fileLoc] at hlen hlen'
    omega
  · have heq : s.fileLoc cwd name = s.fileLoc cwd m.fileName :=
      hpre.eq_of_length (by simp [fileLoc])
    simp [fileLoc] at heq
    exact hname.not_marker m hm heq

/-- Binding another file of the directory keeps the markers as they were. -/
theorem onlyAppear_insert_other {A : Marker → Prop} {name : String} (hname : OtherName name)
    (n : Node) : s.OnlyAppear cwd A t (t.insert (s.fileLoc cwd name) n) := by
  apply onlyAppear_of_agree
  intro l hl
  have hne : l ≠ s.fileLoc cwd name := fun h => not_fileLoc_prefix_watched hname hl (h ▸ List.prefix_refl l)
  have hnil : l ≠ [] := by
    rcases hl with hpath | ⟨m, -, rfl⟩
    · exact onPath_ne_nil hpath
    · exact fileLoc_ne_nil s cwd _
  rw [lookup_insert _ _ _ hnil, if_neg hne]

/-- Moving one other file of the directory onto another keeps the markers as they were. -/
theorem onlyAppear_move_other {A : Marker → Prop} {a b : String} (ha : OtherName a)
    (hb : OtherName b) : s.OnlyAppear cwd A t (t.move (s.fileLoc cwd a) (s.fileLoc cwd b)) := by
  apply onlyAppear_of_agree
  intro l hl
  have hnil : l ≠ [] := by
    rcases hl with hpath | ⟨m, -, rfl⟩
    · exact onPath_ne_nil hpath
    · exact fileLoc_ne_nil s cwd _
  exact lookup_move t hnil (not_fileLoc_prefix_watched ha hl) (not_fileLoc_prefix_watched hb hl)

/-- A watched location at or below a registration marker is the marker itself. -/
theorem eq_of_marker_prefix_watched {m : Marker} {l : Location} (hl : s.Watched cwd l)
    (hpre : s.fileLoc cwd m.fileName <+: l) : l = s.fileLoc cwd m.fileName := by
  rcases hl with hpath | ⟨m', -, rfl⟩
  · have hlen := (prefix_of_onPath hpath []).length_le
    have hlen' := hpre.length_le
    simp [fileLoc] at hlen hlen'
    omega
  · exact (hpre.eq_of_length (by simp [fileLoc])).symm

/-- No location on the state directory's path is a file of the directory. -/
theorem onPath_ne_fileLoc {l : Location} (hl : OnPath (s.base cwd) s.names l) (name : String) :
    l ≠ s.fileLoc cwd name := by
  rintro rfl
  have hlen := (prefix_of_onPath hl []).length_le
  simp [fileLoc] at hlen

/-- **Moving a file of the directory onto registration marker `m` lets only `m` appear**, when
the directories on the way are there. -/
theorem onlyAppear_move_marker {A : Marker → Prop} {a : String} (ha : OtherName a) {m : Marker}
    (hm : m.IsRegistration) (hA : A m) (hsrc : IsFileAt t (s.fileLoc cwd a))
    (hchain : t.DirChain (s.base cwd) s.names) :
    s.OnlyAppear cwd A t (t.move (s.fileLoc cwd a) (s.fileLoc cwd m.fileName)) := by
  set dst := s.fileLoc cwd m.fileName
  set t' := t.move (s.fileLoc cwd a) dst
  -- the marker's location takes the moved file; every other watched binding stays
  have hds : ¬ dst <+: s.fileLoc cwd a := by
    intro hpre
    have heq : dst = s.fileLoc cwd a := hpre.eq_of_length (by simp [dst, fileLoc])
    simp [dst, fileLoc] at heq
    exact ha.not_marker m hm heq.symm
  have hat : t'.lookup dst = t.lookup (s.fileLoc cwd a) :=
    lookup_move_target t (fileLoc_ne_nil s cwd a) (fileLoc_ne_nil s cwd _) hds
  have hkeep : ∀ l, s.Watched cwd l → l ≠ dst → t'.lookup l = t.lookup l := by
    intro l hl hne
    have hnil : l ≠ [] := by
      rcases hl with hpath | ⟨m', -, rfl⟩
      · exact onPath_ne_nil hpath
      · exact fileLoc_ne_nil s cwd _
    exact lookup_move t hnil (not_fileLoc_prefix_watched ha hl)
      (fun hpre => hne (eq_of_marker_prefix_watched hl hpre))
  have hpath : ∀ l, OnPath (s.base cwd) s.names l → t'.lookup l = t.lookup l :=
    fun l hl => hkeep l (.inl hl) (onPath_ne_fileLoc hl _)
  obtain ⟨data, mode, hfile⟩ := hsrc
  intro hsound
  refine ⟨⟨?_, ?_, ?_⟩, ?_⟩
  · intro l hl target
    rw [hpath l hl]
    exact hsound.pathLinkFree l hl target
  · intro m' hm' target
    by_cases h : s.fileLoc cwd m'.fileName = dst
    · rw [h, hat, hfile]
      simp
    · rw [hkeep _ (.inr ⟨m', hm', rfl⟩) h]
      exact hsound.markerNotLink m' hm' target
  · intro _ _ _
    rwa [dirChain_congr hpath]
  · intro m' hm' hA' hf
    have hne : s.fileLoc cwd m'.fileName ≠ dst := by
      intro h
      simp [dst, fileLoc] at h
      exact hA' (Marker.fileName_inj h ▸ hA)
    rwa [IsFileAt, ← hkeep _ (.inr ⟨m', hm', rfl⟩) hne]

end StateStore

end HostAgent.Store
